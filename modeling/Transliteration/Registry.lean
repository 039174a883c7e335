import Transliteration.RuleSet

/-!
# Registered languages

Languages are registered under distinct names, with rules that are put off until the language is
loaded.  Loading a language also makes it the current one.

A registry keeps three things: the languages in the order of their registration, the rules that are
put off, by the names of the languages they are for, and the index of the current language.  Every
operation returns the registry as it has become, also when it fails.
-/

namespace Transliteration

/-! ## Rules that are put off -/

/-- Rules by the names of the languages they are for. -/
structure Deferrals where
  entries : List (String × LanguageRules) := []

namespace Deferrals

/-- The names of the languages for which rules are put off. -/
def names (deferrals : Deferrals) : List String := deferrals.entries.map Prod.fst

/-- The rules that are put off for the language with this name. -/
def find? (deferrals : Deferrals) (name : String) : Option LanguageRules :=
  (deferrals.entries.find? fun entry => entry.1 == name).map Prod.snd

/-- Forgets the rules for the language with this name. -/
def erase (deferrals : Deferrals) (name : String) : Deferrals :=
  ⟨deferrals.entries.filter fun entry => entry.1 != name⟩

/-- Puts off rules for the language with this name, in the place of any others. -/
def insert (deferrals : Deferrals) (name : String) (rules : LanguageRules) : Deferrals :=
  ⟨(deferrals.erase name).entries ++ [(name, rules)]⟩

end Deferrals

/-- The registered languages. -/
structure Registry where
  /-- The languages in the order in which they were registered. -/
  languages : List RuleSet := []
  /-- Rules that were declared with a language and have not been loaded by way of the registry. -/
  deferrals : Deferrals := {}
  /-- The index of the current language. -/
  current : Option Nat := none

namespace Registry

/-- The names of the languages. -/
def names (registry : Registry) : List String := registry.languages.map RuleSet.name

/-- The number of languages. -/
def size (registry : Registry) : Nat := registry.languages.length

/-- Whether no language is registered. -/
def isEmpty (registry : Registry) : Bool := registry.languages.isEmpty

/-! ## Access -/

/-- The index of the language with this name. -/
def position? (registry : Registry) (name : String) : Option Nat :=
  registry.languages.findIdx? fun set => set.name == name

/-- The index of the language with this name, or of the current one if no name is given. -/
def index? (registry : Registry) : Option String → Option Nat
  | some name => registry.position? name
  | none => registry.current

/-- The error if there is no language with this name, or no current one if no name is given. -/
def absent : Option String → Error
  | some name => .unknownLanguage name
  | none => .noLanguage

/-- A language and its index: the one with this name, or the current one if no name is given. -/
def locate? (registry : Registry) (chosen : Option String) : Option (Nat × RuleSet) := do
  let index ← registry.index? chosen
  let set ← registry.languages[index]?
  return (index, set)

/-- A language and its index, or the error that there is none. -/
def locate (registry : Registry) (chosen : Option String) : Except Error (Nat × RuleSet) :=
  match registry.locate? chosen with
  | some found => .ok found
  | none => .error (absent chosen)

/-- The rules of the language with this name, or of the current one if no name is given. -/
def getOrCurrent (registry : Registry) (chosen : Option String) : Except Error RuleSet :=
  (registry.locate chosen).map Prod.snd

/-- The rules of the language with this name. -/
def get (registry : Registry) (name : String) : Except Error RuleSet :=
  registry.getOrCurrent (some name)

/-- The rules of the current language. -/
def getCurrent (registry : Registry) : Except Error RuleSet := registry.getOrCurrent none

/-- The name of the current language. -/
def currentName? (registry : Registry) : Option String :=
  (registry.current.bind fun index => registry.languages[index]?).map RuleSet.name

/-- Puts a rule set in the place of the one at an index. -/
def putAt (registry : Registry) (index : Nat) (set : RuleSet) : Registry :=
  { registry with languages := registry.languages.set index set }

/-- Changes a language in place: the one with this name, or the current one if no name is given.
Rules that are put off stay so. -/
def update {α : Type} (registry : Registry) (chosen : Option String)
    (change : RuleSet → Logged (Except Error α × RuleSet)) : Logged (Except Error α × Registry) :=
  match registry.locate chosen with
  | .error error => pure (.error error, registry)
  | .ok (index, set) => do
    let (answer, set) ← change set
    return (answer, registry.putAt index set)

/-! ## Registering and loading -/

/-- Registers a language with rules to be loaded later. -/
def register (registry : Registry) (iso name : String) (rules : LanguageRules := {}) :
    Except Error Unit × Registry :=
  if (registry.position? name).isSome then (.error (.duplicateLanguage name), registry)
  else
    let deferrals :=
      if rules.isEmpty then registry.deferrals else registry.deferrals.insert name rules
    (.ok (), { registry with languages := registry.languages ++ [{ iso, name }], deferrals })

/-- Loads the language with this name and makes it the current one.  The rules that were put off for
it are put off no longer, but a language that has been loaded before does not take them up. -/
def load (registry : Registry) (name : String) : Logged (Except Error (List Error) × Registry) :=
  match registry.locate (some name) with
  | .error error => pure (.error error, registry)
  | .ok (index, set) => do
    let rules := (registry.deferrals.find? name).getD {}
    let registry :=
      { registry with current := some index, deferrals := registry.deferrals.erase name }
    let (errors, set) ← set.load rules
    return (.ok errors, registry.putAt index set)

end Registry

end Transliteration
