import Mathlib.Data.List.Basic
import Reconcile.Text.LowerCase

/-!
# Lower case, once and for all

Two facts about texts in lower case.  Whether a sigma ends a word depends on the characters around
it, but not on whether these are capital letters of ASCII or small ones, so a text in which they
have been made small has the same lower-case form (`Unicode.lowerAfter_map_toLower`).  And no
character of a lower-case form has another one itself, so that nothing changes when lower case is
taken again (`Unicode.lower_lower`).

The second fact rests on the table: where a run leads, no run begins anew
(`Unicode.avoids_caseRuns`).
-/

namespace Reconcile
namespace Unicode

variable {c d : Char} {before cs : List Char} {r r' : CaseRun} {code : Nat}

/-! ## Letters of ASCII -/

/-- A capital letter of ASCII is followed by the small one at a distance of 32. -/
lemma toNat_toLower (h : 65 ≤ c.toNat ∧ c.toNat ≤ 90) : c.toLower.toNat = c.toNat + 32 := by
  have hrange : c.val ≥ 'A'.val ∧ c.val ≤ 'Z'.val := h
  have hdistance : ('a'.val - 'A'.val).toNat = 32 := by decide
  have hval : c.toLower.val = c.val + ('a'.val - 'A'.val) := congrArg Char.val (dif_pos hrange)
  rw [← Char.toNat_val, hval, UInt32.toNat_add, hdistance, Char.toNat_val]
  omega

lemma toLower_eq_self (h : ¬(65 ≤ c.toNat ∧ c.toNat ≤ 90)) : c.toLower = c := dif_neg h

/-- A character is small already, or it is one of the capital letters. -/
lemma toLower_cases (c : Char) :
    c.toLower = c ∨ (65 ≤ c.toNat ∧ c.toNat ≤ 90 ∧ c.toLower.toNat = c.toNat + 32) := by
  by_cases h : 65 ≤ c.toNat ∧ c.toNat ≤ 90
  · exact Or.inr ⟨h.1, h.2, toNat_toLower h⟩
  · exact Or.inl (toLower_eq_self h)

lemma toLower_toLower (c : Char) : c.toLower.toLower = c.toLower := by
  rcases toLower_cases c with hsame | ⟨hfirst, -, hnat⟩
  · rw [hsame, hsame]
  · exact toLower_eq_self (by omega)

lemma isAlpha_iff :
    c.isAlpha = true ↔ 65 ≤ c.toNat ∧ c.toNat ≤ 90 ∨ 97 ≤ c.toNat ∧ c.toNat ≤ 122 := by
  have hupper : c.isUpper = true ↔ 65 ≤ c.toNat ∧ c.toNat ≤ 90 := decide_eq_true_iff
  have hlower : c.isLower = true ↔ 97 ≤ c.toNat ∧ c.toNat ≤ 122 :=
    Bool.and_eq_true_iff.trans (and_congr decide_eq_true_iff decide_eq_true_iff)
  exact Bool.or_eq_true_iff.trans (or_congr hupper hlower)

lemma lowerChar_of_ascii (h : c.toNat < 0x80) : lowerChar c = [c.toLower] := if_pos h

lemma lowerChar_toLower (c : Char) : lowerChar c.toLower = lowerChar c := by
  rcases toLower_cases c with hsame | ⟨-, hlast, hnat⟩
  · rw [hsame]
  · rw [lowerChar_of_ascii (by omega), lowerChar_of_ascii (by omega), toLower_toLower]

lemma isCased_toLower (c : Char) : isCased c.toLower = isCased c := by
  rcases toLower_cases c with hsame | ⟨hfirst, hlast, hnat⟩
  · rw [hsame]
  · rw [isCased, isCased, if_pos (by omega), if_pos (by omega), Bool.eq_iff_iff, isAlpha_iff,
      isAlpha_iff]
    omega

/-- No letter of ASCII is looked through. -/
lemma isCaseIgnorable_of_isAlpha (h : c.isAlpha = true) : isCaseIgnorable c = false := by
  rw [isAlpha_iff] at h
  rw [isCaseIgnorable, if_pos (by omega), decide_eq_false_iff_not]
  intro hmem
  simp only [List.mem_cons, List.not_mem_nil, or_false, ← Char.toNat_inj] at hmem
  have hcodes : '\''.toNat = 39 ∧ '.'.toNat = 46 ∧ ':'.toNat = 58 ∧ '^'.toNat = 94 ∧
      (Char.ofNat 0x60).toNat = 96 := by decide
  omega

lemma isCaseIgnorable_toLower (c : Char) : isCaseIgnorable c.toLower = isCaseIgnorable c := by
  rcases toLower_cases c with hsame | ⟨hfirst, hlast, hnat⟩
  · rw [hsame]
  · rw [isCaseIgnorable_of_isAlpha (c := c) (isAlpha_iff.2 (by omega)),
      isCaseIgnorable_of_isAlpha (isAlpha_iff.2 (by omega))]

lemma toLower_eq_capitalSigma_iff : c.toLower = capitalSigma ↔ c = capitalSigma := by
  have hsigma : capitalSigma.toNat = 0x3A3 := rfl
  rcases toLower_cases c with hsame | ⟨-, hlast, hnat⟩
  · rw [hsame]
  · rw [← Char.toNat_inj, ← Char.toNat_inj]
    omega

lemma meetsCased_map_toLower (cs : List Char) :
    meetsCased (cs.map Char.toLower) = meetsCased cs := by
  have hignorable : isCaseIgnorable ∘ Char.toLower = isCaseIgnorable :=
    funext isCaseIgnorable_toLower
  rw [meetsCased, meetsCased, List.dropWhile_map, hignorable]
  cases cs.dropWhile isCaseIgnorable with
  | nil => rfl
  | cons c rest => exact isCased_toLower c

/-- Capital letters of ASCII may be made small first, in the text and around it. -/
theorem lowerAfter_map_toLower (before cs : List Char) :
    lowerAfter (before.map Char.toLower) (cs.map Char.toLower) = lowerAfter before cs := by
  induction cs generalizing before with
  | nil => rfl
  | cons c rest ih =>
    have hrest : lowerAfter (c.toLower :: before.map Char.toLower) (rest.map Char.toLower) =
        lowerAfter (c :: before) rest := ih (c :: before)
    rw [List.map_cons, lowerAfter, lowerAfter, hrest, lowerChar_toLower, meetsCased_map_toLower,
      meetsCased_map_toLower]
    simp only [toLower_eq_capitalSigma_iff]

/-! ## Where the runs lead -/

namespace CaseRun

/-- No character that the run leads to is held by `r'`: it leads elsewhere, or to every other
character of `r'`, of which that holds the rest. -/
def avoids (r r' : CaseRun) : Bool :=
  Nat.blt (r.target + (r.last - r.first)) r'.first || Nat.blt r'.last r.target ||
    (r'.step == 2 && (r.step == 2 || r.first == r.last) && r.target % 2 != r'.first % 2)

/-- The run leads to characters beyond ASCII, or to one small letter of it, and not to the
capital I with a dot. -/
def lands (r : CaseRun) : Bool :=
  (0x80 ≤ r.target || 97 ≤ r.target && r.target ≤ 122 && r.first = r.last) &&
    (r.target + (r.last - r.first) < 0x130 || 0x130 < r.target) &&
    (r.target + (r.last - r.first) < 0xD800 ||
      0xDFFF < r.target && r.target + (r.last - r.first) < 0x110000)

lemma holds_iff :
    r.holds code = true ↔ r.first ≤ code ∧ code ≤ r.last ∧ (code - r.first) % r.step = 0 := by
  simp [holds, and_assoc]

lemma holds_eq_false_of_avoids (havoids : r.avoids r' = true) (hcode : r.holds code = true) :
    r'.holds (r.target + (code - r.first)) = false := by
  rw [← Bool.not_eq_true, holds_iff]
  rw [holds_iff] at hcode
  simp only [avoids, Bool.or_eq_true, Bool.and_eq_true, Nat.blt_eq, beq_iff_eq, bne_iff_ne,
    ne_eq] at havoids
  rintro ⟨hfirst, hlast, hstep⟩
  rcases havoids with (hbefore | hbehind) | ⟨⟨hstep', hstepOrOne⟩, hparity⟩
  · omega
  · omega
  · rw [hstep'] at hstep
    rcases hstepOrOne with htwo | hone
    · rw [htwo] at hcode
      omega
    · omega

end CaseRun

/-- Where a run leads, no run begins anew. -/
lemma avoids_caseRuns : ∀ r ∈ caseRuns, ∀ r' ∈ caseRuns, r.avoids r' = true := by
  have hall : (caseRuns.all fun r => caseRuns.all fun r' => r.avoids r') = true := by
    decide +kernel
  intro r hr r' hr'
  exact List.all_eq_true.1 (List.all_eq_true.1 hall r hr) r' hr'

lemma lands_caseRuns : ∀ r ∈ caseRuns, r.lands = true := by decide +kernel

/-! ## Nothing changes twice -/

/-- The character stays as it is in lower case. -/
structure Settled (c : Char) : Prop where
  ne_capitalSigma : c ≠ capitalSigma
  lowerChar : lowerChar c = [c]

lemma settled_toLower (h : c.toNat < 0x80) : Settled c.toLower := by
  have hascii : c.toLower.toNat < 0x80 := by
    rcases toLower_cases c with hsame | ⟨-, hlast, hnat⟩
    · rwa [hsame]
    · omega
  refine ⟨?_, by rw [lowerChar_of_ascii hascii, toLower_toLower]⟩
  intro hsigma
  rw [hsigma] at hascii
  exact absurd hascii (by decide)

/-- A character beyond ASCII that no run holds stays as it is, unless it is the capital I with a
dot. -/
lemma settled_of_holds (hascii : 0x80 ≤ c.toNat) (hdotted : c.toNat ≠ 0x130)
    (hruns : ∀ r ∈ caseRuns, r.holds c.toNat = false) : Settled c := by
  constructor
  · rintro rfl
    exact absurd (hruns ⟨0x3A3, 0x3AB, 1, 0x3C3⟩ (by decide)) (by decide)
  · have hnone : (caseRuns.find? fun r => r.holds c.toNat) = none :=
      List.find?_eq_none.2 fun r hr => by simp [hruns r hr]
    rw [lowerChar, if_neg (by omega), if_neg hdotted, hnone]

/-- Where a run leads the characters stay as they are. -/
lemma settled_of_run (hr : r ∈ caseRuns) (hcode : r.holds code = true) :
    Settled (Char.ofNat (r.target + (code - r.first))) ∧
      97 ≤ (Char.ofNat (r.target + (code - r.first))).toNat := by
  have hlands := lands_caseRuns r hr
  have havoids : ∀ r' ∈ caseRuns, r'.holds (r.target + (code - r.first)) = false :=
    fun r' hr' => CaseRun.holds_eq_false_of_avoids (avoids_caseRuns r hr r' hr') hcode
  rw [CaseRun.holds_iff] at hcode
  simp only [CaseRun.lands, Bool.and_eq_true, Bool.or_eq_true, decide_eq_true_eq] at hlands
  generalize hv : r.target + (code - r.first) = v at havoids ⊢
  have hvalid : v.isValidChar := by
    rcases hlands.2 with hlow | hhigh
    · exact Or.inl (by omega)
    · exact Or.inr (by omega)
  have hnat : (Char.ofNat v).toNat = v := by
    rw [Char.ofNat, dif_pos hvalid]
    rfl
  refine ⟨?_, by omega⟩
  by_cases hascii : v < 0x80
  · have hsmall : (Char.ofNat v).toLower = Char.ofNat v := toLower_eq_self (by omega)
    rw [← hsmall]
    exact settled_toLower (by omega)
  · rw [← hnat] at havoids
    exact settled_of_holds (by omega) (by omega) havoids

/-- What a character becomes stays as it is, and is a space only if the character is one. -/
lemma settled_of_mem_lowerChar (hc : c ≠ capitalSigma) (hd : d ∈ lowerChar c) :
    Settled d ∧ (d = ' ' → c = ' ') := by
  have hspace : ' '.toNat = 32 := rfl
  by_cases hascii : c.toNat < 0x80
  · rw [lowerChar_of_ascii hascii, List.mem_singleton] at hd
    subst hd
    refine ⟨settled_toLower hascii, fun heq => ?_⟩
    rcases toLower_cases c with hsame | ⟨hfirst, -, hnat⟩
    · rw [← hsame, heq]
    · rw [heq] at hnat
      omega
  by_cases hdotted : c.toNat = 0x130
  · rw [lowerChar, if_neg hascii, if_pos hdotted] at hd
    rcases List.mem_cons.1 hd with rfl | hd
    · exact ⟨settled_toLower (c := 'i') (by decide), fun heq => absurd heq (by decide)⟩
    · obtain rfl := List.mem_singleton.1 hd
      have hruns : ∀ r ∈ caseRuns, r.holds 0x307 = false := by decide +kernel
      exact ⟨settled_of_holds (by decide) (by decide) hruns, fun heq => absurd heq (by decide)⟩
  cases hrun : caseRuns.find? fun r => r.holds c.toNat with
  | some r =>
    rw [lowerChar, if_neg hascii, if_neg hdotted, hrun, List.mem_singleton] at hd
    subst hd
    obtain ⟨hsettled, hnat⟩ :=
      settled_of_run (List.mem_of_find?_eq_some hrun) (by simpa using List.find?_some hrun)
    refine ⟨hsettled, fun heq => ?_⟩
    rw [heq] at hnat
    omega
  | none =>
    have hlower : lowerChar c = [c] := by rw [lowerChar, if_neg hascii, if_neg hdotted, hrun]
    rw [hlower, List.mem_singleton] at hd
    subst hd
    exact ⟨⟨hc, hlower⟩, fun heq => heq⟩

lemma settled_of_mem_lowerAfter (hd : d ∈ lowerAfter before cs) :
    Settled d ∧ (d = ' ' → ' ' ∈ cs) := by
  induction cs generalizing before with
  | nil => exact absurd hd List.not_mem_nil
  | cons c rest ih =>
    rw [lowerAfter, List.mem_append] at hd
    rcases hd with hd | hd
    · split at hd
      · -- Both small sigmas stay as they are.
        have hruns : ∀ code ∈ [0x3C2, 0x3C3], ∀ r ∈ caseRuns, r.holds code = false := by
          decide +kernel
        rw [List.mem_singleton] at hd
        subst hd
        split
        · exact ⟨settled_of_holds (by decide) (by decide) (hruns 0x3C2 (by decide)),
            fun heq => absurd heq (by decide)⟩
        · exact ⟨settled_of_holds (by decide) (by decide) (hruns 0x3C3 (by decide)),
            fun heq => absurd heq (by decide)⟩
      · rename_i hc
        obtain ⟨hsettled, hspace⟩ := settled_of_mem_lowerChar hc hd
        exact ⟨hsettled, fun heq => hspace heq ▸ List.mem_cons_self⟩
    · obtain ⟨hsettled, hspace⟩ := ih hd
      exact ⟨hsettled, fun heq => List.mem_cons_of_mem c (hspace heq)⟩

lemma lowerAfter_of_settled (h : ∀ c ∈ cs, Settled c) : lowerAfter before cs = cs := by
  induction cs generalizing before with
  | nil => rfl
  | cons c rest ih =>
    have hc := h c List.mem_cons_self
    rw [lowerAfter, if_neg hc.ne_capitalSigma, hc.lowerChar,
      ih fun d hd => h d (List.mem_cons_of_mem c hd), List.singleton_append]

/-- Lower case is taken once. -/
theorem lower_lower (s : String) : lower (lower s) = lower s := by
  rw [lower, lower, String.toList_ofList,
    lowerAfter_of_settled fun d hd => (settled_of_mem_lowerAfter hd).1]

-- A sigma is final at the end of a word, and in front of a letter it is not.
example : lowerAfter [] ['A', capitalSigma, 'b', capitalSigma] =
    ['a', Char.ofNat 0x3C3, 'b', Char.ofNat 0x3C2] := by decide

end Unicode
end Reconcile
