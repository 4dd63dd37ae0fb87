/-
  FabEdge.Go.Regexp — the meaning of the Go regular expressions the operator compiles.

  `options.go` checks a cluster name with `dns1123Reg.MatchString`.  The pattern is anchored at
  both ends (`^…$`, and without the `m` flag RE2's `$` holds only at the end of the text), so
  `MatchString` asks whether the WHOLE name lies in the language of the pattern's body.  This file
  gives that body's syntax (`Regexp`), its language as an inductive relation (`Matches`), and an
  executable matcher by Brzozowski derivatives (`matchList`).

  Main results:
    * `nullable_iff`  — `nullable r` decides `Matches r []`,
    * `matches_deriv` — `Matches (deriv c r) w ↔ Matches r (c :: w)`,
    * `matchList_iff` — the matcher decides the language, for every pattern and every word.
-/
import Mathlib.Data.List.Basic

namespace FabEdge.Go

/-! ## §1. Syntax and language. -/

/-- The RE2 constructs of the operator's patterns; groups only capture, so they are dropped. -/
inductive Regexp where
  /-- Matches nothing; only derivatives produce it. -/
  | empty
  /-- The empty string. -/
  | eps
  /-- One literal character, such as `\.`. -/
  | lit (c : Char)
  /-- A bracket class `[...]`, by its inclusive ranges (`[-a-z]` is `-`–`-`, `a`–`z`). -/
  | charClass (ranges : List (Char × Char))
  | cat (r s : Regexp)
  | alt (r s : Regexp)
  | star (r : Regexp)
  deriving Repr, DecidableEq

/-- `r?`, which RE2 reads as `r|` (greediness does not change what matches). -/
def Regexp.quest (r : Regexp) : Regexp := .alt r .eps

/-- Whether a character lies in one of a class's ranges. -/
def inRanges (ranges : List (Char × Char)) (c : Char) : Bool :=
  ranges.any fun rg => rg.1 ≤ c && c ≤ rg.2

/-- `Matches r w`: the word `w` is in the language of `r`. -/
inductive Matches : Regexp → List Char → Prop
  | eps : Matches .eps []
  | lit (c : Char) : Matches (.lit c) [c]
  | charClass {ranges : List (Char × Char)} {c : Char} (h : inRanges ranges c = true) :
      Matches (.charClass ranges) [c]
  | cat {r s : Regexp} {u v w : List Char} (hr : Matches r u) (hs : Matches s v)
      (hw : w = u ++ v) : Matches (.cat r s) w
  | altLeft {r s : Regexp} {w : List Char} (h : Matches r w) : Matches (.alt r s) w
  | altRight {r s : Regexp} {w : List Char} (h : Matches s w) : Matches (.alt r s) w
  | starNil {r : Regexp} : Matches (.star r) []
  | starCons {r : Regexp} {u v w : List Char} (hr : Matches r u) (hs : Matches (.star r) v)
      (hw : w = u ++ v) : Matches (.star r) w

/-! ## §2. Inversion, one lemma per constructor. -/

section Inversion

variable {r s : Regexp} {w : List Char}

@[simp] theorem matches_empty : ¬ Matches .empty w := by rintro ⟨⟩

@[simp] theorem matches_eps_iff : Matches .eps w ↔ w = [] :=
  ⟨by rintro ⟨⟩; rfl, by rintro rfl; exact .eps⟩

@[simp] theorem matches_lit_iff {c : Char} : Matches (.lit c) w ↔ w = [c] :=
  ⟨by rintro ⟨⟩; rfl, by rintro rfl; exact .lit c⟩

@[simp] theorem matches_charClass_iff {ranges : List (Char × Char)} :
    Matches (.charClass ranges) w ↔ ∃ c, w = [c] ∧ inRanges ranges c = true :=
  ⟨fun h => by cases h with | charClass h => exact ⟨_, rfl, h⟩,
   by rintro ⟨c, rfl, h⟩; exact .charClass h⟩

@[simp] theorem matches_cat_iff :
    Matches (.cat r s) w ↔ ∃ u v, w = u ++ v ∧ Matches r u ∧ Matches s v :=
  ⟨fun h => by cases h with | cat hr hs hw => exact ⟨_, _, hw, hr, hs⟩,
   by rintro ⟨u, v, rfl, hr, hs⟩; exact .cat hr hs rfl⟩

@[simp] theorem matches_alt_iff : Matches (.alt r s) w ↔ Matches r w ∨ Matches s w :=
  ⟨fun h => by cases h with | altLeft h => exact .inl h | altRight h => exact .inr h,
   by rintro (h | h); exacts [.altLeft h, .altRight h]⟩

@[simp] theorem matches_quest_iff : Matches r.quest w ↔ Matches r w ∨ w = [] := by
  simp [Regexp.quest]

/-- Induction over the words of `r*`: the empty word, then one more piece of `r` in front. -/
theorem Matches.star_induction {P : List Char → Prop} (hnil : P [])
    (hcons : ∀ u v, Matches r u → Matches (.star r) v → P v → P (u ++ v))
    (h : Matches (.star r) w) : P w := by
  generalize hR : Regexp.star r = R at h
  induction h with
  | starNil => exact hnil
  | starCons hr hs hw _ ih =>
      cases hR
      subst hw
      exact hcons _ _ hr hs (ih rfl)
  | _ => cases hR

/-- A non-empty word of `r*` starts with a non-empty piece that `r` matches. -/
theorem matches_star_cons {c : Char} (h : Matches (.star r) (c :: w)) :
    ∃ u v, w = u ++ v ∧ Matches r (c :: u) ∧ Matches (.star r) v := by
  generalize hR : Regexp.star r = R at h
  generalize hW : c :: w = W at h
  induction h generalizing w with
  | starCons hr hs hw _ ih =>
      cases hR
      subst hw
      rcases List.cons_eq_append_iff.mp hW with ⟨rfl, rfl⟩ | ⟨u, rfl, rfl⟩
      · obtain ⟨u, v, rfl, hu, hv⟩ := ih rfl rfl
        exact ⟨u, v, rfl, hu, hv⟩
      · exact ⟨u, _, rfl, hr, hs⟩
  | starNil => cases hW
  | _ => cases hR

/-- The words of `[...]*`: those whose every character is in the class. -/
theorem matches_star_charClass_iff {ranges : List (Char × Char)} :
    Matches (.star (.charClass ranges)) w ↔ ∀ c ∈ w, inRanges ranges c = true := by
  constructor
  · refine Matches.star_induction (P := fun w => ∀ c ∈ w, inRanges ranges c = true) (by simp) ?_
    rintro _ v hu - ih c hc
    obtain ⟨d, rfl, hd⟩ := matches_charClass_iff.1 hu
    rcases List.mem_cons.1 hc with rfl | hc
    exacts [hd, ih c hc]
  · induction w with
    | nil => exact fun _ => .starNil
    | cons c w ih =>
        intro h
        exact .starCons (.charClass (h c (List.mem_cons_self c w)))
          (ih fun d hd => h d (List.mem_cons_of_mem c hd)) rfl

end Inversion

/-! ## §3. The derivative matcher. -/

/-- Whether the empty word matches. -/
def nullable : Regexp → Bool
  | .empty => false
  | .eps => true
  | .lit _ => false
  | .charClass _ => false
  | .cat r s => nullable r && nullable s
  | .alt r s => nullable r || nullable s
  | .star _ => true

/-- The Brzozowski derivative: what is left of `r` after reading `c`. -/
def deriv (c : Char) : Regexp → Regexp
  | .empty => .empty
  | .eps => .empty
  | .lit d => if c = d then .eps else .empty
  | .charClass ranges => if inRanges ranges c then .eps else .empty
  | .cat r s => if nullable r then .alt (.cat (deriv c r) s) (deriv c s) else .cat (deriv c r) s
  | .alt r s => .alt (deriv c r) (deriv c s)
  | .star r => .cat (deriv c r) (.star r)

/-- Match a whole word: one derivative per character, then `nullable`. -/
def matchList (r : Regexp) : List Char → Bool
  | [] => nullable r
  | c :: w => matchList (deriv c r) w

/-- `regexp.MatchString` for the anchored pattern `^r$`. -/
def Regexp.matchString (r : Regexp) (s : String) : Bool := matchList r s.data

theorem nullable_iff (r : Regexp) : nullable r = true ↔ Matches r [] := by
  induction r with
  | star r => exact ⟨fun _ => .starNil, fun _ => rfl⟩
  | _ => simp [nullable, List.nil_eq_append_iff, and_assoc, *]

/-- A word in `r s` beginning with `c`: either `r` takes the `c`, or `r` is skipped. -/
private theorem matches_cat_cons {c : Char} :
    Matches (.cat r s) (c :: w) ↔
      (∃ u v, w = u ++ v ∧ Matches r (c :: u) ∧ Matches s v) ∨
        (Matches r [] ∧ Matches s (c :: w)) := by
  simp only [matches_cat_iff, List.cons_eq_append_iff]
  constructor
  · rintro ⟨u, v, ⟨rfl, rfl⟩ | ⟨u, rfl, rfl⟩, hu, hv⟩
    · exact .inr ⟨hu, hv⟩
    · exact .inl ⟨u, v, rfl, hu, hv⟩
  · rintro (⟨u, v, rfl, hu, hv⟩ | ⟨hu, hv⟩)
    · exact ⟨c :: u, v, .inr ⟨u, rfl, rfl⟩, hu, hv⟩
    · exact ⟨[], c :: w, .inl ⟨rfl, rfl⟩, hu, hv⟩

/-- **The derivative is correct**, for every pattern. -/
theorem matches_deriv (c : Char) (r : Regexp) (w : List Char) :
    Matches (deriv c r) w ↔ Matches r (c :: w) := by
  induction r generalizing w with
  | empty => simp [deriv]
  | eps => simp [deriv]
  | lit d => by_cases h : c = d <;> simp [deriv, h]
  | charClass ranges => by_cases h : inRanges ranges c <;> simp [deriv, h, and_assoc]
  | cat r s ihr ihs =>
      rw [matches_cat_cons, ← nullable_iff]
      by_cases hn : nullable r <;> simp [deriv, hn, ihr, ihs]
  | alt r s ihr ihs => simp [deriv, ihr, ihs]
  | star r ih =>
      simp only [deriv, matches_cat_iff, ih]
      constructor
      · rintro ⟨u, v, rfl, hu, hv⟩
        exact .starCons hu hv rfl
      · exact matches_star_cons

/-- **The matcher decides the language.** -/
theorem matchList_iff (r : Regexp) (w : List Char) : matchList r w = true ↔ Matches r w := by
  induction w generalizing r with
  | nil => exact nullable_iff r
  | cons c w ih => rw [matchList, ih, matches_deriv]

theorem matchString_iff (r : Regexp) (s : String) : r.matchString s = true ↔ Matches r s.data :=
  matchList_iff r s.data

end FabEdge.Go
