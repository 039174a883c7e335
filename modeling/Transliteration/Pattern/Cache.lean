import Transliteration.Pattern

/-!
# Compiling every pattern once

Rules repeat each other's patterns.  A cache keeps what has been compiled, by source and anchor, and
gives it back when it is asked for again.  Patterns that do not compile leave no trace.
-/

namespace Transliteration

/-- The patterns compiled so far, latest first. -/
structure PatternCache where
  patterns : List Pattern := []
  deriving Repr

namespace PatternCache

/-- The number of patterns compiled so far. -/
def size (cache : PatternCache) : Nat := cache.patterns.length

/-- Whether no pattern has been compiled. -/
def isEmpty (cache : PatternCache) : Bool := cache.patterns.isEmpty

/-- The pattern compiled from this source with this anchor. -/
def find? (cache : PatternCache) (source : String) (anchor : Anchor) : Option Pattern :=
  cache.patterns.find? fun pattern => pattern.source == source && pattern.anchor == anchor

/-- A pattern from the cache, or compiled and put there. -/
def compile (cache : PatternCache) (source : String) (anchor : Anchor) :
    Except Error Pattern × PatternCache :=
  match cache.find? source anchor with
  | some pattern => (.ok pattern, cache)
  | none =>
    match Pattern.compile source anchor with
    | .ok pattern => (.ok pattern, ⟨pattern :: cache.patterns⟩)
    | .error error => (.error error, cache)

end PatternCache

/-- A computation that may compile patterns, and that may fail; the patterns it has compiled stay
compiled when it fails. -/
abbrev Compiling := ExceptT Error (StateM PatternCache)

/-- Compiles a pattern through the cache. -/
def Compiling.pattern (source : String) (anchor : Anchor) : Compiling Pattern :=
  fun cache => cache.compile source anchor

end Transliteration
