import Transliteration.Log

/-!
# Values with a log

A value with a log is a computation that writes: the laws of monads hold because entries are only
ever added at the end.
-/

namespace Transliteration.Logged

variable {α β : Type}

@[simp] theorem value_pure (a : α) : (pure a : Logged α).value = a := rfl

@[simp] theorem log_pure (a : α) : (pure a : Logged α).log = [] := rfl

@[simp] theorem value_bind (first : Logged α) (next : α → Logged β) :
    (first >>= next).value = (next first.value).value := rfl

@[simp] theorem log_bind (first : Logged α) (next : α → Logged β) :
    (first >>= next).log = first.log ++ (next first.value).log := rfl

@[simp] theorem value_map (f : α → β) (first : Logged α) :
    (f <$> first).value = f first.value := rfl

@[simp] theorem log_map (f : α → β) (first : Logged α) : (f <$> first).log = first.log :=
  List.append_nil _

@[simp] theorem value_report (entries : List LogEntry) : (report entries).value = () := rfl

@[simp] theorem log_report (entries : List LogEntry) : (report entries).log = entries := rfl

theorem ext {first second : Logged α} (hvalue : first.value = second.value)
    (hlog : first.log = second.log) : first = second := by
  obtain ⟨value, log⟩ := first
  obtain ⟨value', log'⟩ := second
  rw [show value = value' from hvalue, show log = log' from hlog]

instance : LawfulMonad Logged :=
  LawfulMonad.mk' Logged (fun _ => ext rfl (List.append_nil _)) (fun _ _ => rfl)
    (fun _ _ _ => ext rfl (List.append_assoc ..))

end Transliteration.Logged
