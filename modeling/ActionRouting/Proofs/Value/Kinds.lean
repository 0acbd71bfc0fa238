import Mathlib.Tactic.Lemma
import ActionRouting.Value.Access

/-! The kinds of values, and the members of maps: what a function that takes values apart needs to
know of them to succeed. -/
namespace ActionRouting

namespace Result

variable {α β : Type}

@[simp] lemma ok_bind (a : α) (f : α → Result β) : (Except.ok a >>= f) = f a := rfl

@[simp] lemma error_bind (e : Fault) (f : α → Result β) :
    ((Except.error e : Result α) >>= f) = .error e := rfl

lemma isOk_iff {x : Result α} : x.isOk ↔ ∃ a, x = .ok a := by
  cases x with
  | error e => simp [Except.isOk, Except.toBool]
  | ok a => simp [Except.isOk, Except.toBool]

/-- A chain of two steps gives what the second gives on what the first gave. -/
lemma bind_eq_ok {x : Result α} {f : α → Result β} {b : β} :
    (x >>= f) = .ok b ↔ ∃ a, x = .ok a ∧ f a = .ok b := by
  cases x with
  | error e => simp
  | ok a => simp

end Result

namespace Value

def isText : Value → Bool
  | text _ => true
  | _ => false

def isString : Value → Bool
  | text _ => true
  | bytes _ => true
  | _ => false

def isTextOrNull (v : Value) : Bool := v.isNull || v.isText

def isMappingOrNull : Value → Bool
  | null => true
  | mapping _ => true
  | _ => false

def chars : Value → List Char
  | text s => s.toList
  | _ => []

def fields : Value → OrderedMap Value
  | mapping fields => fields
  | _ => []

variable {v w : Value}

lemma isText_iff : v.isText ↔ ∃ s, v = text s := by cases v <;> simp [isText]

lemma isTextOrNull_orElse (hv : v.isTextOrNull) (hw : w.isTextOrNull) :
    (v.orElse w).isTextOrNull := by
  rw [orElse]
  split
  · exact hv
  · exact hw

/-- Where nothing or an empty text is replaced by a text, there is a text. -/
lemma isText_orElse (hv : v.isTextOrNull) (s : String) : (v.orElse (text s)).isText := by
  cases v with
  | null => rfl
  | text t =>
    rw [orElse]
    split <;> rfl
  | _ => cases hv

lemma orElse_mapping (hv : v.isMappingOrNull) : v.orElse (mapping []) = mapping v.fields := by
  cases v with
  | null => rfl
  | mapping fields => cases fields <;> rfl
  | _ => cases hv

end Value

namespace OrderedMap

variable {β : Type}

lemma mem_of_get? {m : OrderedMap β} {key : String} {value : β} (h : get? key m = some value) :
    (key, value) ∈ m := by
  induction m with
  | nil => cases h
  | cons p rest ih =>
    obtain ⟨k, v⟩ := p
    rw [get?] at h
    split at h
    · next hk =>
      cases h
      rw [hk]
      exact List.mem_cons_self
    · exact List.mem_cons_of_mem _ (ih h)

/-- Insertion adds its own pair and keeps or drops the others. -/
lemma mem_insert {m : OrderedMap β} {key : String} {value : β} {p : String × β}
    (h : p ∈ insert key value m) : p = (key, value) ∨ p ∈ m := by
  induction m with
  | nil => exact Or.inl (List.mem_singleton.mp h)
  | cons q rest ih =>
    rw [insert] at h
    split at h
    · next hk =>
      rcases List.mem_cons.mp h with rfl | hp
      · exact Or.inl (by rw [hk])
      · exact Or.inr (List.mem_cons_of_mem _ hp)
    · rcases List.mem_cons.mp h with rfl | hp
      · exact Or.inr List.mem_cons_self
      · rcases ih hp with hp | hp
        · exact Or.inl hp
        · exact Or.inr (List.mem_cons_of_mem _ hp)

lemma mem_insertAll {pairs : List (String × β)} {m : OrderedMap β} {p : String × β}
    (h : p ∈ insertAll pairs m) : p ∈ pairs ∨ p ∈ m := by
  induction pairs generalizing m with
  | nil => exact Or.inr h
  | cons q rest ih =>
    rcases ih (m := insert q.1 q.2 m) h with hp | hp
    · exact Or.inl (List.mem_cons_of_mem _ hp)
    · rcases mem_insert hp with rfl | hp
      · exact Or.inl List.mem_cons_self
      · exact Or.inr hp

/-- A map made of pairs has no others. -/
lemma mem_ofPairs {pairs : List (String × β)} {p : String × β} (h : p ∈ ofPairs pairs) :
    p ∈ pairs :=
  (mem_insertAll h).resolve_right List.not_mem_nil

end OrderedMap

end ActionRouting
