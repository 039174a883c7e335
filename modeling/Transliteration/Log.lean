/-!
# Log entries

Whatever an operation has to report beside its result is part of its value: a list of entries in the
order in which they arise.
-/

namespace Transliteration

/-- How grave an entry is. -/
inductive Level where
  | error
  | warn
  | info
  | debug
  deriving DecidableEq, Repr

namespace Level

/-- The graver, the smaller. -/
def rank : Level → Nat
  | .error => 1
  | .warn => 2
  | .info => 3
  | .debug => 4

/-- The name of a level as it is written in front of an entry. -/
def name : Level → String
  | .error => "ERROR"
  | .warn => "WARN"
  | .info => "INFO"
  | .debug => "DEBUG"

end Level

/-- One entry of a log. -/
structure LogEntry where
  level : Level
  message : String
  deriving DecidableEq, Repr

/-- A value together with what was reported while it came about. -/
structure Logged (α : Type) where
  value : α
  log : List LogEntry := []
  deriving DecidableEq, Repr

namespace Logged

instance : Monad Logged where
  pure value := { value }
  bind first next :=
    let second := next first.value
    ⟨second.value, first.log ++ second.log⟩

/-- Reports some entries. -/
def report (entries : List LogEntry) : Logged Unit := ⟨(), entries⟩

end Logged

/-- Which entries are shown: those at most as minor as the given level, or none at all. -/
structure LogFilter where
  most : Option Level
  deriving DecidableEq, Repr

namespace LogFilter

/-- What is shown unless someone asks for something else. -/
def standard : LogFilter := ⟨some .warn⟩

/-- The filter that shows entries down to the level with this name, in letters of either case.  The
empty name asks for errors, and a name that is none shows nothing. -/
def ofName (name : String) : LogFilter :=
  match name.toLower with
  | "" | "error" => ⟨some .error⟩
  | "warn" => ⟨some .warn⟩
  | "info" => ⟨some .info⟩
  | "debug" | "trace" => ⟨some .debug⟩
  | _ => ⟨none⟩

/-- Whether an entry is shown. -/
def shows (filter : LogFilter) (entry : LogEntry) : Bool :=
  filter.most.any fun most => entry.level.rank ≤ most.rank

/-- The entries that are shown. -/
def apply (filter : LogFilter) (log : List LogEntry) : List LogEntry := log.filter filter.shows

end LogFilter

end Transliteration
