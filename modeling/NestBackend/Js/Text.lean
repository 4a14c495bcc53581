import Mathlib.Data.List.DropRight
import Mathlib.Data.String.Basic

namespace NestBackend.Js

/-- The code points that `String.prototype.trim` removes: white space and line terminators. -/
def isWhiteSpace (c : Char) : Bool :=
  let n := c.toNat
  (0x9 ≤ n && n ≤ 0xD) || n == 0x20 || n == 0xA0 || n == 0x1680 || (0x2000 ≤ n && n ≤ 0x200A) ||
    n == 0x2028 || n == 0x2029 || n == 0x202F || n == 0x205F || n == 0x3000 || n == 0xFEFF

def trim (s : String) : String :=
  String.ofList ((s.toList.dropWhile isWhiteSpace).rdropWhile isWhiteSpace)

def startsWith (s pre : String) : Bool := pre.toList.isPrefixOf s.toList

def slice (s : String) (n : Nat) : String := String.ofList (s.toList.drop n)

def endsWith (s post : String) : Bool := post.toList.isSuffixOf s.toList

def lowerCase (c : Char) : List Char :=
  match c.toNat with
  | 0x130 => ['i', Char.ofNat 0x307]
  | 0x212A => ['k']
  | _ => [c.toLower]

/-- `s.toLowerCase()`, as far as comparing it with a text in ASCII goes. -/
def toLowerCase (s : String) : String := String.ofList (s.toList.flatMap lowerCase)

def NonBlank (s : String) : Prop := ∃ c ∈ s.toList, isWhiteSpace c = false

instance (s : String) : Decidable (NonBlank s) :=
  List.decidableBEx (isWhiteSpace · = false) s.toList

theorem trim_length_eq_zero_iff (s : String) : (trim s).length = 0 ↔ ¬ NonBlank s := by
  have hlen : (trim s).length = 0 ↔
      (s.toList.dropWhile isWhiteSpace).rdropWhile isWhiteSpace = [] := by
    simp [trim, ← String.length_toList]
  rw [hlen, List.rdropWhile_eq_nil_iff, NonBlank]
  constructor
  · rintro h ⟨c, hc, hw⟩
    have hnil : s.toList.dropWhile isWhiteSpace = [] := by
      cases hd : s.toList.dropWhile isWhiteSpace with
      | nil => rfl
      | cons d ds =>
        have hne : s.toList.dropWhile isWhiteSpace ≠ [] := by simp [hd]
        have hhead := List.head_dropWhile_not isWhiteSpace hne
        have hmem := h _ (List.head_mem hne)
        simp [hmem] at hhead
    have hall := List.dropWhile_eq_nil_iff.mp hnil c hc
    simp [hall] at hw
  · intro h c hc
    by_contra hw
    exact h ⟨c, (List.dropWhile_suffix _).subset hc, by simpa using hw⟩

structure IsTrimmed (cs : List Char) : Prop where
  head : ∀ h : cs ≠ [], isWhiteSpace (cs.head h) = false
  last : ∀ h : cs ≠ [], isWhiteSpace (cs.getLast h) = false

def IsBlank (cs : List Char) : Prop := ∀ c ∈ cs, isWhiteSpace c = true

theorem IsBlank.append {cs ds : List Char} (hcs : IsBlank cs) (hds : IsBlank ds) :
    IsBlank (cs ++ ds) := by
  intro c hc
  rcases List.mem_append.mp hc with hc | hc
  · exact hcs c hc
  · exact hds c hc

theorem trim_padded {s t : String} {pre post : List Char}
    (hs : s.toList = pre ++ (t.toList ++ post)) (hpre : IsBlank pre) (hpost : IsBlank post)
    (ht : IsTrimmed t.toList) : trim s = t := by
  have hfront : s.toList.dropWhile isWhiteSpace = (t.toList ++ post).dropWhile isWhiteSpace := by
    rw [hs, List.dropWhile_append_of_pos hpre]
  apply String.toList_inj.mp
  rw [trim, String.toList_ofList, hfront]
  by_cases hnil : t.toList = []
  · rw [hnil, List.nil_append, List.dropWhile_eq_nil_iff.mpr hpost, List.rdropWhile_nil]
  · have hhead : (t.toList ++ post).dropWhile isWhiteSpace = t.toList ++ post := by
      obtain ⟨c, cs, hcs⟩ := List.exists_cons_of_ne_nil hnil
      have hc : isWhiteSpace c = false := by simpa [hcs] using ht.head hnil
      rw [hcs, List.cons_append, List.dropWhile_cons_of_neg (by simp [hc])]
    have hlast : t.toList.rdropWhile isWhiteSpace = t.toList :=
      List.rdropWhile_eq_self_iff.mpr fun h => by simp [ht.last h]
    rw [hhead, List.rdropWhile, List.reverse_append,
      List.dropWhile_append_of_pos fun c hc => hpost c (List.mem_reverse.mp hc)]
    exact hlast

theorem exists_padding (s : String) : ∃ pre post, s.toList = pre ++ ((trim s).toList ++ post) ∧
    IsBlank pre ∧ IsBlank post ∧ IsTrimmed (trim s).toList := by
  have htrim : (trim s).toList = (s.toList.dropWhile isWhiteSpace).rdropWhile isWhiteSpace := by
    rw [trim, String.toList_ofList]
  refine ⟨s.toList.takeWhile isWhiteSpace,
    (s.toList.dropWhile isWhiteSpace).rtakeWhile isWhiteSpace, ?_, ?_, ?_, ?_, ?_⟩
  · rw [htrim, List.rdropWhile_append_rtakeWhile, List.takeWhile_append_dropWhile]
  · exact fun c hc => List.mem_takeWhile_imp hc
  · exact fun c hc => List.mem_rtakeWhile_imp hc
  · intro h
    rw [htrim] at h
    have hprefix := List.rdropWhile_prefix isWhiteSpace (s.toList.dropWhile isWhiteSpace)
    have hne : s.toList.dropWhile isWhiteSpace ≠ [] := fun hnil => h (by rw [hnil]; rfl)
    have hhead := List.head_dropWhile_not isWhiteSpace hne
    simpa [htrim, hprefix.head h] using hhead
  · intro h
    rw [htrim] at h
    simpa [htrim] using List.rdropWhile_last_not isWhiteSpace _ h

@[simp] theorem slice_append (pre s : String) : slice (pre ++ s) pre.toList.length = s := by
  simp [slice]

@[simp] theorem startsWith_append (pre s : String) : startsWith (pre ++ s) pre = true := by
  simp [startsWith]

theorem eq_append_of_startsWith {s pre : String} (h : startsWith s pre = true) :
    s = pre ++ slice s pre.toList.length := by
  have hpre : pre.toList <+: s.toList := by simpa [startsWith] using h
  obtain ⟨rest, hrest⟩ := hpre
  apply String.toList_inj.mp
  simp [slice, ← hrest]

end NestBackend.Js
