import Mathlib.Data.List.Nodup

universe u

namespace NestBackend.Lib

/-- A set that is iterated in insertion order. -/
structure OrderedSet (α : Type u) where
  toList : List α
  nodup : toList.Nodup
  deriving DecidableEq

namespace OrderedSet

variable {α : Type u}

@[ext] theorem ext {s t : OrderedSet α} (h : s.toList = t.toList) : s = t := by
  cases s
  cases t
  congr

def empty : OrderedSet α := ⟨[], List.nodup_nil⟩

instance : Membership α (OrderedSet α) := ⟨fun s a => a ∈ s.toList⟩

instance [DecidableEq α] (a : α) (s : OrderedSet α) : Decidable (a ∈ s) :=
  inferInstanceAs (Decidable (a ∈ s.toList))

@[simp] theorem mem_toList {s : OrderedSet α} {a : α} : a ∈ s.toList ↔ a ∈ s := Iff.rfl

def size (s : OrderedSet α) : Nat := s.toList.length

@[simp] theorem not_mem_empty (a : α) : ¬ a ∈ (empty : OrderedSet α) := List.not_mem_nil

@[simp] theorem size_empty : (empty : OrderedSet α).size = 0 := rfl

theorem size_eq_zero_iff {s : OrderedSet α} : s.size = 0 ↔ ∀ a, ¬ a ∈ s := by
  simp [size, ← mem_toList, List.eq_nil_iff_forall_not_mem]

theorem size_pos_of_mem {s : OrderedSet α} {a : α} (h : a ∈ s) : 0 < s.size :=
  List.length_pos_of_mem h

variable [DecidableEq α]

def add (s : OrderedSet α) (a : α) : OrderedSet α :=
  if h : a ∈ s then s
  else ⟨s.toList ++ [a], by
    have ha : ∀ b ∈ s.toList, ¬ b = a := fun b hb hba => h (hba ▸ hb)
    simpa [List.nodup_append, s.nodup] using ha⟩

def delete (s : OrderedSet α) (a : α) : OrderedSet α :=
  ⟨s.toList.erase a, s.nodup.erase a⟩

@[simp] theorem mem_add {s : OrderedSet α} {a b : α} : b ∈ s.add a ↔ b ∈ s ∨ b = a := by
  unfold add
  split
  · next h => exact ⟨Or.inl, fun hb => hb.elim id (fun e => e ▸ h)⟩
  · next h => simp [← mem_toList]

@[simp] theorem mem_delete {s : OrderedSet α} {a b : α} : b ∈ s.delete a ↔ b ≠ a ∧ b ∈ s :=
  s.nodup.mem_erase_iff

theorem size_add_of_not_mem {s : OrderedSet α} {a : α} (h : ¬ a ∈ s) :
    (s.add a).size = s.size + 1 := by
  simp [add, h, size]

theorem size_delete_of_mem {s : OrderedSet α} {a : α} (h : a ∈ s) :
    (s.delete a).size + 1 = s.size := by
  have hpos := size_pos_of_mem h
  simp only [delete, size] at hpos ⊢
  rw [List.length_erase_of_mem h]
  omega

end OrderedSet

end NestBackend.Lib
