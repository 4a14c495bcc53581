import NestBackend.Js.Text
import NestBackend.Lib.Pattern

namespace NestBackend.Auth

open Js Lib

def isLineTerminator (c : Char) : Bool :=
  let n := c.toNat
  n == 0xA || n == 0xD || n == 0x2028 || n == 0x2029

def letter (l c : Char) : Bool := c.toLower == l.toLower

/-- `/^\s*Bearer\s+(.+?)\s*$/i`. -/
def BEARER : Pattern Char :=
  .seq (.many true isWhiteSpace) <|
  .seq (.literal ("Bearer".toList.map letter)) <|
  .seq (.many1 true isWhiteSpace) <|
  .seq (.group (.many1 false fun c => !isLineTerminator c)) <|
  .seq (.many true isWhiteSpace) .stop

def extractBearerToken : Option String → Option String
  | none => none
  | some header =>
    match (BEARER.exec header.toList).bind (·.groups.head?) with
    | none => none
    | some group =>
      let token := trim (String.ofList group)
      if token = "" then none else some token

def IsScheme (cs : List Char) : Prop := cs.map Char.toLower = "bearer".toList

structure IsToken (t : String) : Prop where
  ne_empty : t ≠ ""
  trimmed : IsTrimmed t.toList
  one_line : ∀ c ∈ t.toList, isLineTerminator c = false

structure Layout (header t : List Char) where
  pre : List Char
  scheme : List Char
  gap : List Char
  post : List Char
  eq : header = pre ++ (scheme ++ (gap ++ (t ++ post)))
  pre_blank : IsBlank pre
  isScheme : IsScheme scheme
  gap_ne_nil : gap ≠ []
  gap_blank : IsBlank gap
  post_blank : IsBlank post

/-- The header has the form `ws* Bearer ws+ t ws*`. -/
def BearerForm (header t : String) : Prop := IsToken t ∧ Nonempty (Layout header.toList t.toList)

theorem forall₂_letter {ls cs : List Char} :
    List.Forall₂ (fun p c => p c = true) (ls.map letter) cs ↔
      cs.map Char.toLower = ls.map Char.toLower := by
  rw [List.forall₂_map_left_iff, ← List.forall₂_eq_eq_eq, List.forall₂_map_left_iff,
    List.forall₂_map_right_iff]
  constructor
  · exact fun h => h.flip.imp fun _ _ hc => by simpa [letter] using hc
  · exact fun h => h.flip.imp fun _ _ hc => by simpa [letter] using hc

theorem toLower_of_isWhiteSpace {c : Char} (h : isWhiteSpace c = true) : c.toLower = c := by
  have hupper : ¬ (c.val ≥ 'A'.val ∧ c.val ≤ 'Z'.val) := by
    simp only [ge_iff_le, UInt32.le_iff_toNat_le]
    change ¬ (65 ≤ c.toNat ∧ c.toNat ≤ 90)
    simp only [isWhiteSpace, Bool.or_eq_true, Bool.and_eq_true, decide_eq_true_eq, beq_iff_eq] at h
    omega
  exact dif_neg hupper

theorem IsScheme.exists_head {cs : List Char} (h : IsScheme cs) :
    ∃ c ds, cs = c :: ds ∧ isWhiteSpace c = false := by
  cases cs with
  | nil => cases h
  | cons c ds =>
    have hlower : c.toLower = 'b' := (List.cons.inj h).1
    refine ⟨c, ds, rfl, ?_⟩
    by_contra hblank
    have hself := toLower_of_isWhiteSpace (by simpa using hblank : isWhiteSpace c = true)
    rw [← hself, hlower] at hblank
    exact hblank (by decide)

theorem IsScheme.length {cs : List Char} (h : IsScheme cs) : cs.length = 6 := by
  simpa using congrArg List.length h

theorem takes_bearer {u r : List Char} {gs : List (List Char)} : BEARER.Takes u gs r ↔
    ∃ t, Nonempty (Layout u t) ∧ t ≠ [] ∧ (∀ c ∈ t, isLineTerminator c = false) ∧
      gs = [t] ∧ r = [] := by
  constructor
  · intro h
    obtain ⟨pre, _, _, _, hpre, h₁, rfl, rfl⟩ := Pattern.takes_seq.mp h
    obtain ⟨scheme, _, _, _, hscheme, h₂, rfl, rfl⟩ := Pattern.takes_seq.mp h₁
    obtain ⟨gap, _, _, _, hgap, h₃, rfl, rfl⟩ := Pattern.takes_seq.mp h₂
    obtain ⟨t, _, _, _, ht, h₄, rfl, rfl⟩ := Pattern.takes_seq.mp h₃
    obtain ⟨post, _, _, _, hpost, h₅, rfl, rfl⟩ := Pattern.takes_seq.mp h₄
    obtain ⟨rfl, rfl, rfl⟩ := Pattern.takes_stop.mp h₅
    obtain ⟨hpre', rfl⟩ := Pattern.takes_many.mp hpre
    obtain ⟨hscheme', rfl⟩ := Pattern.takes_literal.mp hscheme
    obtain ⟨hne, hgap', rfl⟩ := Pattern.takes_many1.mp hgap
    obtain ⟨_, ht', rfl⟩ := Pattern.takes_group.mp ht
    obtain ⟨ht_ne, hline, rfl⟩ := Pattern.takes_many1.mp ht'
    obtain ⟨hpost', rfl⟩ := Pattern.takes_many.mp hpost
    refine ⟨t, ⟨⟨pre, scheme, gap, post, by simp, hpre', forall₂_letter.mp hscheme', hne, hgap',
      hpost'⟩⟩, ht_ne, ?_, rfl, rfl⟩
    exact fun c hc => by simpa using hline c hc
  · rintro ⟨t, ⟨L⟩, hne, hline, rfl, rfl⟩
    have hblank {cs r : List Char} (h : IsBlank cs) :
        (Pattern.many true isWhiteSpace).Takes cs [] r := .many h
    have hscheme {r : List Char} :
        (Pattern.literal ("Bearer".toList.map letter)).Takes L.scheme [] r :=
      Pattern.takes_literal.mpr ⟨forall₂_letter.mpr L.isScheme, rfl⟩
    have hgap {r : List Char} : (Pattern.many1 true isWhiteSpace).Takes L.gap [] r :=
      Pattern.takes_many1.mpr ⟨L.gap_ne_nil, L.gap_blank, rfl⟩
    have ht {r : List Char} :
        (Pattern.group (.many1 false fun c => !isLineTerminator c)).Takes t [t] r :=
      .group (Pattern.takes_many1.mpr ⟨hne, fun c hc => by simp [hline c hc], rfl⟩)
    have hend := (hblank L.post_blank).seq Pattern.Takes.stop
    rw [L.eq]
    simpa [BEARER] using (hblank L.pre_blank).seq (hscheme.seq (hgap.seq (ht.seq hend)))

theorem Layout.token_eq {header g t : List Char} (L : Layout header g) (M : Layout header t) :
    L.gap ++ (g ++ L.post) = M.gap ++ (t ++ M.post) := by
  have hcut {pre scheme tail : List Char} (hpre : IsBlank pre) (hscheme : IsScheme scheme) :
      (pre ++ (scheme ++ tail)).dropWhile isWhiteSpace = scheme ++ tail := by
    obtain ⟨c, ds, rfl, hc⟩ := hscheme.exists_head
    rw [List.dropWhile_append_of_pos hpre, List.cons_append,
      List.dropWhile_cons_of_neg (by simp [hc])]
  have htails : L.scheme ++ (L.gap ++ (g ++ L.post)) = M.scheme ++ (M.gap ++ (t ++ M.post)) := by
    rw [← hcut L.pre_blank L.isScheme, ← hcut M.pre_blank M.isScheme, ← L.eq, ← M.eq]
  exact (List.append_inj htails (by rw [L.isScheme.length, M.isScheme.length])).2

theorem move_padding {g a t b : List Char} (hg : g = a ++ (t ++ b)) (xs ys : List Char) :
    xs ++ (g ++ ys) = xs ++ a ++ (t ++ (b ++ ys)) := by
  subst hg
  simp

theorem Layout.trim_eq {header g : List Char} {t : String} (L : Layout header g)
    (M : Layout header t.toList) (ht : IsToken t) : trim (String.ofList g) = t := by
  obtain ⟨a, b, hg, ha, hb, htrim⟩ := exists_padding (String.ofList g)
  rw [String.toList_ofList] at hg
  have hpadded : (String.ofList (L.gap ++ (g ++ L.post))).toList =
      L.gap ++ a ++ ((trim (String.ofList g)).toList ++ (b ++ L.post)) := by
    rw [String.toList_ofList, move_padding hg]
  have hshort : trim (String.ofList (L.gap ++ (g ++ L.post))) = trim (String.ofList g) :=
    trim_padded hpadded (L.gap_blank.append ha) (hb.append L.post_blank) htrim
  rw [← hshort, L.token_eq M]
  exact trim_padded (by simp) M.gap_blank M.post_blank ht.trimmed

theorem Layout.bearerForm {header : String} {g : List Char} (L : Layout header.toList g)
    (hline : ∀ c ∈ g, isLineTerminator c = false) (hne : trim (String.ofList g) ≠ "") :
    BearerForm header (trim (String.ofList g)) := by
  obtain ⟨a, b, hg, ha, hb, htrim⟩ := exists_padding (String.ofList g)
  rw [String.toList_ofList] at hg
  refine ⟨⟨hne, htrim, fun c hc => hline c ?_⟩, ⟨⟨L.pre, L.scheme, L.gap ++ a, b ++ L.post, ?_,
    L.pre_blank, L.isScheme, ?_, L.gap_blank.append ha, hb.append L.post_blank⟩⟩⟩
  · rw [hg]
    simp [hc]
  · rw [← move_padding hg L.gap L.post, ← L.eq]
  · simp [L.gap_ne_nil]

theorem extractBearerToken_eq_some_iff {header t : String} :
    extractBearerToken (some header) = some t ↔ BearerForm header t := by
  have hexec {w : Way Char} (hw : BEARER.exec header.toList = some w) :
      ∃ g, Nonempty (Layout header.toList g) ∧ (∀ c ∈ g, isLineTerminator c = false) ∧
        w.groups.head? = some g := by
    obtain ⟨hs, htakes⟩ := Pattern.takes_of_exec hw
    obtain ⟨g, hL, -, hline, hgroups, hrest⟩ := takes_bearer.mp htakes
    rw [hrest, List.append_nil] at hs
    exact ⟨g, hs ▸ hL, hline, by rw [hgroups]; rfl⟩
  constructor
  · intro h
    cases hw : BEARER.exec header.toList with
    | none => simp [extractBearerToken, hw] at h
    | some w =>
      obtain ⟨g, ⟨L⟩, hline, hg⟩ := hexec hw
      have hne : trim (String.ofList g) ≠ "" := by
        intro hempty
        simp [extractBearerToken, hw, hg, hempty] at h
      have ht : trim (String.ofList g) = t := by
        simpa [extractBearerToken, hw, hg, hne] using h
      exact ht ▸ L.bearerForm hline hne
  · rintro ⟨ht, ⟨M⟩⟩
    have hne : t.toList ≠ [] := fun hnil => ht.ne_empty (String.toList_inj.mp hnil)
    have htakes := takes_bearer.mpr ⟨t.toList, ⟨M⟩, hne, ht.one_line, rfl, rfl⟩
    have hsome := Pattern.exec_ne_none htakes
    rw [List.append_nil] at hsome
    obtain ⟨w, hw⟩ := Option.ne_none_iff_exists'.mp hsome
    obtain ⟨g, ⟨L⟩, -, hg⟩ := hexec hw
    simp [extractBearerToken, hw, hg, L.trim_eq M ht, ht.ne_empty]

theorem BearerForm.unique {header t t' : String} (h : BearerForm header t)
    (h' : BearerForm header t') : t = t' := by
  rw [← extractBearerToken_eq_some_iff] at h h'
  exact Option.some.inj (h.symm.trans h')

example : extractBearerToken (some " bEARER	 a b
") = some "a b" := by decide +kernel

end NestBackend.Auth
