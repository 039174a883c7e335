import Transliteration.Proofs.Json.Fields

/-!
# Values in the place of a field

A record is written in two ways that differ only in the place of one field.  What is given for the
other fields is then the same, and if reading the one writing fails, so does reading the other
(`Fields.Place.follows`).

What is made of the two values may still differ: one of them may be refused and the other one not.
One reading follows the other if that is all the difference there is (`Follows`).
-/

namespace Transliteration

/-! ## Steps beside each other -/

/-- The first step does what the second one does: it has a result that is related to the other one,
or fails with the same fault.  But it may also refuse what the second one takes. -/
inductive Follows {ε α β : Type} (Refuses : ε → Prop) (Related : α → β → Prop) :
    Except ε α → Except ε β → Prop
  | ok {a : α} {b : β} (hrelated : Related a b) : Follows Refuses Related (.ok a) (.ok b)
  | error (fault : ε) : Follows Refuses Related (.error fault) (.error fault)
  | refused {fault : ε} (hfault : Refuses fault) (second : Except ε β) :
      Follows Refuses Related (.error fault) second

/-- The lists differ in one place, by two items that are related. -/
def DifferAt {α : Type} (place : Nat) (Related : α → α → Prop) (first second : List α) : Prop :=
  ∃ before a b after, before.length = place ∧ Related a b ∧
    first = before ++ a :: after ∧ second = before ++ b :: after

namespace Follows

variable {ε α β γ δ : Type} {Refuses : ε → Prop} {Related : α → β → Prop} {Onward : γ → δ → Prop}
  {first : Except ε α} {second : Except ε β}

theorem refl {Related : α → α → Prop} (hrefl : ∀ a, Related a a) (step : Except ε α) :
    Follows Refuses Related step step := by
  cases step with
  | error fault => exact .error fault
  | ok a => exact .ok (hrefl a)

theorem mono {Other : α → β → Prop} (hfollows : Follows Refuses Related first second)
    (hother : ∀ a b, Related a b → Other a b) : Follows Refuses Other first second := by
  cases hfollows with
  | ok hrelated => exact .ok (hother _ _ hrelated)
  | error fault => exact .error fault
  | refused hfault second => exact .refused hfault second

theorem bind {next : α → Except ε γ} {onward : β → Except ε δ}
    (hfirst : Follows Refuses Related first second)
    (hnext : ∀ a b, Related a b → Follows Refuses Onward (next a) (onward b)) :
    Follows Refuses Onward (first >>= next) (second >>= onward) := by
  cases hfirst with
  | ok hrelated => exact hnext _ _ hrelated
  | error fault => exact .error fault
  | refused hfault second => exact .refused hfault _

/-- What is made of the items one after another differs where the items do. -/
theorem mapM {ι : Type} {make : ι → Except ε α} {i j : ι} {Related : α → α → Prop}
    (hmake : Follows Refuses Related (make i) (make j)) (before after : List ι) :
    Follows Refuses (DifferAt before.length Related)
      ((before ++ i :: after).mapM make) ((before ++ j :: after).mapM make) := by
  induction before with
  | nil =>
      simp only [List.nil_append, List.mapM_cons]
      refine hmake.bind fun a b hab => ?_
      refine (refl Eq.refl (after.mapM make)).bind fun made others hmade => ?_
      exact .ok ⟨[], a, b, made, rfl, hab, rfl, by rw [hmade]; rfl⟩
  | cons item before ih =>
      simp only [List.cons_append, List.mapM_cons]
      refine (refl Eq.refl (make item)).bind fun c d hcd => ?_
      refine ih.bind ?_
      rintro made others ⟨front, a, b, back, hlength, hab, rfl, rfl⟩
      subst hcd
      exact .ok ⟨c :: front, a, b, back, by rw [List.length_cons, hlength, List.length_cons],
        hab, rfl, rfl⟩

end Follows

namespace Json.Fields

/-! ## Two values for one field -/

/-- What is found differs for one field only. -/
structure DifferIn (name : String) (value other : Json) (first second : List (String × Json)) :
    Prop where
  first_eq : first.lookup name = some value
  second_eq : second.lookup name = some other
  same : ∀ field, field ≠ name → first.lookup field = second.lookup field

section

variable {names : List String} {name : String} {value other : Json}
  {first second : List (String × Json)} {Refuses : Fault → Prop}

/-- A field is found in both or in neither. -/
theorem DifferIn.isSome_eq (hdiffer : DifferIn name value other first second) (field : String) :
    (first.lookup field).isSome = (second.lookup field).isSome := by
  by_cases hfield : field = name
  · rw [hfield, hdiffer.first_eq, hdiffer.second_eq]
    rfl
  · rw [hdiffer.same field hfield]

theorem DifferIn.cons (hdiffer : DifferIn name value other first second) {field : String}
    (hfield : field ≠ name) (given : Json) :
    DifferIn name value other ((field, given) :: first) ((field, given) :: second) where
  first_eq := by rw [List.lookup_cons, beq_false_of_ne hfield.symm, hdiffer.first_eq]
  second_eq := by rw [List.lookup_cons, beq_false_of_ne hfield.symm, hdiffer.second_eq]
  same := by
    intro found hfound
    rw [List.lookup_cons, List.lookup_cons, hdiffer.same found hfound]

theorem ofMembers_append (names : List String) (found : List (String × Json))
    (before after : List (Option String × Json)) :
    ofMembers names found (before ++ after) =
      ofMembers names found before >>= fun found => ofMembers names found after := by
  fun_induction ofMembers names found before with
  | case1 found => rfl
  | case2 found value members => rfl
  | case3 found name value members hname hfound =>
      rw [List.cons_append, ofMembers, if_pos hname, if_pos hfound]
      rfl
  | case4 found name value members hname hnew ih =>
      rw [List.cons_append, ofMembers, if_pos hname, if_neg hnew, ih]
  | case5 found name value members hname ih =>
      rw [List.cons_append, ofMembers, if_neg hname, ih]

theorem DifferIn.ofMembers (hdiffer : DifferIn name value other first second)
    (members : List (Option String × Json)) :
    Follows Refuses (DifferIn name value other)
      (ofMembers names first members) (ofMembers names second members) := by
  induction members generalizing first second with
  | nil => exact .ok hdiffer
  | cons member members ih =>
      obtain ⟨_ | field, given⟩ := member
      · exact .error _
      · rw [Fields.ofMembers, Fields.ofMembers, ← hdiffer.isSome_eq field]
        split
        · split
          · exact .error _
          · next hnew =>
            have hfield : field ≠ name := by
              rintro rfl
              exact hnew (by rw [hdiffer.first_eq]; rfl)
            exact ih (hdiffer.cons hfield given)
        · exact ih hdiffer

/-- Whatever is written for a record, with a value in the place of the field of this name. -/
inductive Place (names : List String) (name : String) : (Json → Json) → Prop
  | member (before after : List (Option String × Json)) :
      Place names name fun value => .object (before ++ (some name, value) :: after)
  | item {earlier later : List String} {before : List Json}
      (hnames : names = earlier ++ name :: later) (hlength : earlier.length = before.length)
      (after : List Json) : Place names name fun value => .array (before ++ value :: after)

theorem Place.follows {writing : Json → Json} (hplace : Place names name writing)
    (hnames : names.Nodup) (hname : name ∈ names) (value other : Json) :
    Follows Refuses
      (fun fields others => fields.positional = others.positional ∧
        DifferIn name value other fields.given others.given)
      (Fields.of names (writing value)) (Fields.of names (writing other)) := by
  cases hplace with
  | member before after =>
      -- Earlier members are read the same, and whatever comes later cannot give the field again.
      have hmembers : Follows Refuses (DifferIn name value other)
          (ofMembers names [] (before ++ (some name, value) :: after))
          (ofMembers names [] (before ++ (some name, other) :: after)) := by
        rw [ofMembers_append, ofMembers_append]
        refine (Follows.refl Eq.refl _).bind fun found others hfound => ?_
        subst hfound
        rw [ofMembers, ofMembers, if_pos hname, if_pos hname]
        split
        · exact .error _
        · refine DifferIn.ofMembers ⟨List.lookup_cons_self, List.lookup_cons_self, ?_⟩ after
          intro field hfield
          rw [List.lookup_cons, List.lookup_cons, beq_false_of_ne hfield]
      exact hmembers.bind fun given others hgiven => .ok ⟨rfl, hgiven⟩
  | @item earlier later before heq hlength after =>
      subst heq
      -- By position a field is given once, since the names are distinct.
      have hnew : (earlier.zip before).lookup name = none := by
        rw [List.lookup_eq_none_iff]
        rintro ⟨field, given⟩ hfield
        have hdifferent : name ≠ field := by
          rintro rfl
          exact (List.nodup_append.mp hnames).2.2 _ (List.of_mem_zip hfield).1 _
            List.mem_cons_self rfl
        simpa using hdifferent
      have hzip : ∀ given, (earlier ++ name :: later).zip (before ++ given :: after) =
          earlier.zip before ++ (name, given) :: later.zip after := by
        intro given
        rw [List.zip_append hlength, List.zip_cons_cons]
      simp only [Fields.of, List.length_append, List.length_cons, hzip]
      split
      · exact .error _
      · refine .ok ⟨rfl, ?_, ?_, fun field hfield => ?_⟩
        · rw [List.lookup_append, hnew, List.lookup_cons_self, Option.none_or]
        · rw [List.lookup_append, hnew, List.lookup_cons_self, Option.none_or]
        · simp only [List.lookup_append, List.lookup_cons, beq_false_of_ne hfield]

end

/-! ## What is made of the fields -/

section

variable {α : Type} {name : String} {value other : Json} {fields others : Fields}
  {decode : Json → Except Fault α}

theorem named_eq_of_ne (hpositional : fields.positional = others.positional)
    (hdiffer : DifferIn name value other fields.given others.given) {field : String}
    (hfield : field ≠ name) : fields.named field decode = others.named field decode := by
  simp only [named, required, optional, withDefault, get?, hpositional, hdiffer.same field hfield]

theorem withDefault_eq_of_ne (hdiffer : DifferIn name value other fields.given others.given)
    {field : String} (hfield : field ≠ name) {default : α} :
    fields.withDefault field default decode = others.withDefault field default decode := by
  simp only [withDefault, get?, hdiffer.same field hfield]

/-- A field that is given is read, whether it may be left out or not. -/
theorem named_eq (hgiven : fields.given.lookup name = some value) :
    fields.named name decode = nullable decode value := by
  simp only [named, required, optional, withDefault, get?, hgiven, ite_self]

theorem nullable_eq (hvalue : value ≠ .null) :
    nullable decode value = decode value >>= fun a => .ok (some a) := by
  cases value with
  | null => exact absurd rfl hvalue
  | bool _ | number _ | string _ | array _ | object _ => rfl

theorem withDefault_eq (hgiven : fields.given.lookup name = some value) {default : α} :
    fields.withDefault name default decode = decode value := by
  simp only [withDefault, get?, hgiven]

end

end Json.Fields

end Transliteration
