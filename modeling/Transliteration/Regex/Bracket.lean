import Transliteration.Regex.Escape

/-!
# Classes in brackets

A class lists characters, ranges, named sets and further classes, `[a-z\d[:punct:]]`, and combines
such lists by `&&` (both), `--` (the first without the second) and `~~` (one but not both), from
left to right.

Next to the set the reader keeps count of how deep the parts of the class lie in one another, since
patterns are refused beyond a certain depth.
-/

namespace Transliteration.Regex

/-- A set with the number of levels that its writing takes. -/
structure Leveled where
  set : CharSet
  levels : Nat
  deriving DecidableEq, Repr

/-- How two lists of a class are combined. -/
inductive Combination where
  | both
  | without
  | oneOf
  deriving DecidableEq, Repr

/-- The set that the sign makes of the lists on its two sides. -/
def Combination.apply (left right : CharSet) : Combination → CharSet
  | .both => left.inter right
  | .without => left.diff right
  | .oneOf => left.symmDiff right

/-- What has been read of a class: the lists before the last combination sign with that sign, and
the members since then, latest first. -/
structure ClassSoFar where
  left : Option (Leveled × Combination)
  members : List Leveled
  deriving Repr

namespace ClassSoFar

/-- Adds a member. -/
def add (soFar : ClassSoFar) (member : Leveled) : ClassSoFar :=
  { soFar with members := member :: soFar.members }

/-- The members since the last combination sign, as one set.  Several members lie a level below
their list; one member is its list. -/
def list (soFar : ClassSoFar) : Leveled :=
  match soFar.members with
  | [] => ⟨.empty, 0⟩
  | [member] => member
  | members =>
    ⟨members.foldr (fun member set => set.union member.set) .empty,
      members.foldl (fun levels member => max levels member.levels) 0 + 1⟩

/-- All that has been read, as one set. -/
def close (modes : Modes) (soFar : ClassSoFar) : Leveled :=
  let right := soFar.list
  match soFar.left with
  | none => right
  | some (left, combination) =>
    ⟨combination.apply (foldSet modes left.set) (foldSet modes right.set),
      max left.levels right.levels + 1⟩

/-- Goes on after a combination sign. -/
def combine (modes : Modes) (soFar : ClassSoFar) (combination : Combination) : ClassSoFar :=
  ⟨some (soFar.close modes, combination), []⟩

end ClassSoFar

/-- The classes named between colons, which hold ASCII characters only. -/
def colonSet? (name : List Char) : Option CharSet :=
  match String.ofList name with
  | "alnum" => some ⟨[(0x30, 0x39), (0x41, 0x5A), (0x61, 0x7A)]⟩
  | "alpha" => some ⟨[(0x41, 0x5A), (0x61, 0x7A)]⟩
  | "ascii" => some ⟨[(0x00, 0x7F)]⟩
  | "blank" => some ⟨[(0x09, 0x09), (0x20, 0x20)]⟩
  | "cntrl" => some ⟨[(0x00, 0x1F), (0x7F, 0x7F)]⟩
  | "digit" => some ⟨[(0x30, 0x39)]⟩
  | "graph" => some ⟨[(0x21, 0x7E)]⟩
  | "lower" => some ⟨[(0x61, 0x7A)]⟩
  | "print" => some ⟨[(0x20, 0x7E)]⟩
  | "punct" => some ⟨[(0x21, 0x2F), (0x3A, 0x40), (0x5B, 0x60), (0x7B, 0x7E)]⟩
  | "space" => some ⟨[(0x09, 0x0D), (0x20, 0x20)]⟩
  | "upper" => some ⟨[(0x41, 0x5A)]⟩
  | "word" => some asciiWordCharacters
  | "xdigit" => some ⟨[(0x30, 0x39), (0x41, 0x46), (0x61, 0x66)]⟩
  | _ => none

/-- A class such as `[:alpha:]` or `[:^alpha:]`, after its opening bracket: whether it is negated,
its set, and the rest.  Where this does not succeed the bracket opens an ordinary class. -/
def readColonClass? (pattern : List Char) : Option (Bool × CharSet × List Char) :=
  match pattern with
  | ':' :: '^' :: rest => named true rest
  | ':' :: rest => named false rest
  | _ => none
where
  named (negated : Bool) (rest : List Char) : Option (Bool × CharSet × List Char) :=
    match rest.dropWhile (· != ':') with
    | ':' :: ']' :: after => (colonSet? (rest.takeWhile (· != ':'))).map (negated, ·, after)
    | _ => none

/-- One end of a range or a member by itself. -/
def readMember (modes : Modes) : List Char → Except Fault (Atom × List Char)
  | [] => .error .unclosedClass
  | '\\' :: rest => readEscape modes rest
  | c :: rest => .ok (.char c, rest)

/-- The character itself as a member.  Where classes are limited to ASCII no other character may be
written in one. -/
def memberChar (modes : Modes) (c : Char) : Except Fault Char :=
  if modes.unicode || c.toNat < 0x80 then .ok c else .error .noCharacter

/-- A character, a range of characters or a set. -/
def readRange (modes : Modes) (pattern : List Char) : Except Fault (Leveled × List Char) := do
  let (first, rest) ← readMember modes pattern
  match skip modes rest with
  | [] => .error .unclosedClass
  | '-' :: more =>
    if peek modes more == some ']' || peek modes more == some '-' then single first ('-' :: more)
    else
      match skip modes more with
      | [] => .error .unclosedClass
      | more =>
        let (last, rest) ← readMember modes more
        match first, last with
        | .char a, .char b =>
          let a ← memberChar modes a
          let b ← memberChar modes b
          if a ≤ b then .ok (⟨.ofRange a.toNat b.toNat, 0⟩, rest) else .error .badClassRange
        | _, _ => .error .badClassRange
  | rest => single first rest
where
  single (atom : Atom) (rest : List Char) : Except Fault (Leveled × List Char) :=
    match atom with
    | .char c => (memberChar modes c).map fun c => (⟨.singleton c, 0⟩, rest)
    | .set set => .ok (⟨set, 0⟩, rest)
    | .look _ => .error .noCharacter

/-- Hyphens right after the opening bracket stand for themselves. -/
def readHyphens (modes : Modes) : Nat → List Char → ClassSoFar → List Char × ClassSoFar
  | 0, pattern, soFar => (pattern, soFar)
  | bound + 1, '-' :: rest, soFar =>
    readHyphens modes bound (skip modes rest) (soFar.add ⟨.singleton '-', 0⟩)
  | _ + 1, pattern, soFar => (pattern, soFar)

/-- Whether a caret negates the class, and what comes after it. -/
def readCaret (modes : Modes) : List Char → Bool × List Char
  | '^' :: rest => (true, skip modes rest)
  | pattern => (false, pattern)

/-- A closing bracket stands for itself where no member stands before it. -/
def readFirstBracket (modes : Modes) : List Char → ClassSoFar → List Char × ClassSoFar
  | ']' :: rest, soFar =>
    if soFar.members.isEmpty then (skip modes rest, soFar.add ⟨.singleton ']', 0⟩)
    else (']' :: rest, soFar)
  | pattern, soFar => (pattern, soFar)

/-- The beginning of a class after its opening bracket: whether it is negated, the rest, and the
members that would mean something else further on, namely hyphens and then a closing bracket. -/
def readOpening (modes : Modes) (pattern : List Char) : Bool × List Char × ClassSoFar :=
  let (negated, pattern) := readCaret modes (skip modes pattern)
  let (pattern, soFar) := readHyphens modes pattern.length pattern ⟨none, []⟩
  (negated, readFirstBracket modes pattern soFar)

/-- The rest of a class, up to and including its closing bracket.  The bound is on the number of
parts still to come. -/
def readClassRest (modes : Modes) : Nat → Bool → List Char → ClassSoFar →
    Except Fault (Leveled × List Char)
  | 0, _, _, _ => .error .unclosedClass
  | bound + 1, negated, pattern, soFar =>
    match skip modes pattern with
    | [] => .error .unclosedClass
    | '[' :: rest =>
      match readColonClass? rest with
      | some (inner, set, rest) => do
        let set ← negateSet modes inner (foldSet modes set)
        readClassRest modes bound negated rest (soFar.add ⟨set, 0⟩)
      | none => do
        let (inner, rest, opened) := readOpening modes rest
        let (member, rest) ← readClassRest modes bound inner rest opened
        readClassRest modes bound negated rest (soFar.add member)
    | ']' :: rest => do
      -- case is ignored before the set is negated, so that no other case of a member gets in
      let closed := soFar.close modes
      let set ← negateSet modes negated (foldSet modes closed.set)
      return (⟨set, closed.levels + 1⟩, rest)
    | '&' :: '&' :: rest => readClassRest modes bound negated rest (soFar.combine modes .both)
    | '-' :: '-' :: rest => readClassRest modes bound negated rest (soFar.combine modes .without)
    | '~' :: '~' :: rest => readClassRest modes bound negated rest (soFar.combine modes .oneOf)
    | rest => do
      let (member, rest) ← readRange modes rest
      readClassRest modes bound negated rest (soFar.add member)

/-- A class, after its opening bracket. -/
def readClass (modes : Modes) (pattern : List Char) : Except Fault (Leveled × List Char) :=
  let (negated, rest, opened) := readOpening modes pattern
  readClassRest modes (pattern.length + 1) negated rest opened

end Transliteration.Regex
