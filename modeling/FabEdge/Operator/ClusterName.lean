/-
  FabEdge.Operator.ClusterName — which cluster names `Validate` accepts, and what a name of the
  form `<cluster>.<suffix>` says about its cluster.

  `dns1123Reg` is the RFC 1123 SUBDOMAIN pattern: dot-separated labels, not a single label.  Its
  language is read off `List.splitOn '.'` (`matches_dns1123Reg_iff`): every field between dots
  must be a label.  So an accepted name followed by `.` and more labels is accepted again, and
  `<cluster>.<suffix>` names its cluster only up to such an extension (`dotted_name_collision_iff`).

  Main results:
    * `validateClusterName_ok_iff` — the name checks accept exactly the names whose dot-separated
      fields are all labels,
    * `dotted_name_collision_iff` — for two accepted names `c1 ≠ c2`, `c1.s1 = c2.s2` iff one
      name is the other followed by `.` and an accepted name.
-/
import FabEdge.Operator.Options

namespace FabEdge.Operator

open FabEdge.Go

/-! ## §1. Labels. -/

/-- A DNS label: a letter or digit, then letters, digits and dashes, ending in a letter or digit. -/
def labelOK : List Char → Bool
  | [] => false
  | c :: t =>
      inRanges [('a', 'z'), ('0', '9')] c &&
        t.all (inRanges [('-', '-'), ('a', 'z'), ('0', '9')]) &&
        t.getLast?.all (inRanges [('a', 'z'), ('0', '9')])

theorem inRanges_alnumDash_of_alnum {c : Char} (h : inRanges [('a', 'z'), ('0', '9')] c = true) :
    inRanges [('-', '-'), ('a', 'z'), ('0', '9')] c = true := by
  simp only [inRanges, List.any_cons, List.any_nil, Bool.or_false] at h ⊢
  simp [h]

/-- A label has no dot. -/
theorem dot_not_mem_of_labelOK {l : List Char} (h : labelOK l = true) : '.' ∉ l := by
  cases l with
  | nil => simp [labelOK] at h
  | cons c t =>
      simp only [labelOK, Bool.and_eq_true, List.all_eq_true] at h
      rintro (_ | ⟨_, hmem⟩)
      · exact absurd h.1.1 (by decide)
      · exact absurd (h.1.2 _ hmem) (by decide)

/-- The form `splitOnP` asks for. -/
theorem noDot_of_labelOK {l : List Char} (h : labelOK l = true) : ∀ x ∈ l, ¬ (x == '.') = true :=
  fun _ hx hdot => dot_not_mem_of_labelOK h (beq_iff_eq.1 hdot ▸ hx)

theorem matches_dns1123Label_iff {w : List Char} : Matches dns1123Label w ↔ labelOK w = true := by
  simp only [dns1123Label, alnumClass, alnumDashClass, matches_cat_iff, matches_quest_iff,
    matches_charClass_iff, matches_star_charClass_iff]
  constructor
  · rintro ⟨_, v, rfl, ⟨c, rfl, hc⟩, ⟨m, _, rfl, hm, d, rfl, hd⟩ | rfl⟩
    · simpa [labelOK, hc, hd, inRanges_alnumDash_of_alnum hd] using hm
    · simp [labelOK, hc]
  · intro h
    cases w with
    | nil => simp [labelOK] at h
    | cons c t =>
        simp only [labelOK, Bool.and_eq_true, List.all_eq_true] at h
        obtain ⟨⟨hc, hall⟩, hlast⟩ := h
        refine ⟨[c], t, rfl, ⟨c, rfl, hc⟩, ?_⟩
        rcases List.eq_nil_or_concat t with rfl | ⟨m, d, rfl⟩
        · exact .inr rfl
        · simp only [List.concat_eq_append] at hall hlast ⊢
          refine .inl ⟨m, [d], rfl, fun x hx => hall x (List.mem_append_left _ hx), d, rfl, ?_⟩
          simpa using hlast

/-! ## §2. Names: labels between dots. -/

/-- After a first label, `splitOn` reads back only labels. -/
theorem splitOn_label_append {v : List Char}
    (hv : Matches (.star (.cat (.lit '.') dns1123Label)) v) :
    ∀ u, labelOK u = true → ∀ l ∈ (u ++ v).splitOn '.', labelOK l = true := by
  refine Matches.star_induction
    (P := fun v => ∀ u, labelOK u = true → ∀ l ∈ (u ++ v).splitOn '.', labelOK l = true) ?_ ?_ hv
  · intro u hu l hl
    rw [List.append_nil, List.splitOn, List.splitOnP_eq_single _ _ (noDot_of_labelOK hu)] at hl
    rw [List.mem_singleton.1 hl]
    exact hu
  · intro x v hx _ ih u hu l hl
    obtain ⟨_, l1, rfl, hdot, hl1⟩ := matches_cat_iff.1 hx
    rw [matches_lit_iff.1 hdot, List.splitOn, List.singleton_append, List.cons_append,
      List.splitOnP_first _ _ (noDot_of_labelOK hu) '.' (by simp)] at hl
    rcases List.mem_cons.1 hl with rfl | hl
    · exact hu
    · exact ih l1 (matches_dns1123Label_iff.1 hl1) l hl

/-- Labels joined by dots. -/
theorem intercalate_dot_cons (l : List Char) (ls : List (List Char)) :
    ['.'].intercalate (l :: ls) = l ++ (ls.map ('.' :: ·)).flatten := by
  induction ls generalizing l with
  | nil => simp [List.intercalate]
  | cons l' ls ih =>
      rw [List.intercalate, List.intersperse_cons₂, List.flatten_cons, List.flatten_cons,
        ← List.intercalate, ih]
      simp

theorem matches_star_dotLabel {ls : List (List Char)} (h : ∀ l ∈ ls, labelOK l = true) :
    Matches (.star (.cat (.lit '.') dns1123Label)) (ls.map ('.' :: ·)).flatten := by
  induction ls with
  | nil => exact .starNil
  | cons l ls ih =>
      exact .starCons (.cat (.lit '.') (matches_dns1123Label_iff.2 (h l (List.mem_cons_self l ls)))
        rfl) (ih fun l' hl' => h l' (List.mem_cons_of_mem l hl')) rfl

/-- **The language of `dns1123Reg`**: every dot-separated field is a label. -/
theorem matches_dns1123Reg_iff {w : List Char} :
    Matches dns1123Reg w ↔ ∀ l ∈ w.splitOn '.', labelOK l = true := by
  constructor
  · intro h
    obtain ⟨u, v, rfl, hu, hv⟩ := matches_cat_iff.1 h
    exact splitOn_label_append hv u (matches_dns1123Label_iff.1 hu)
  · intro h
    obtain ⟨l, ls, hsplit⟩ := List.exists_cons_of_ne_nil (List.splitOnP_ne_nil (· == '.') w)
    have hw : w = l ++ (ls.map ('.' :: ·)).flatten := by
      rw [← intercalate_dot_cons, ← hsplit]
      exact (List.intercalate_splitOn w '.').symm
    rw [List.splitOn, hsplit] at h
    rw [hw]
    exact .cat (matches_dns1123Label_iff.2 (h l (List.mem_cons_self l ls)))
      (matches_star_dotLabel fun l' hl' => h l' (List.mem_cons_of_mem l hl')) rfl

/-- The name checks of `Validate` accept exactly the names whose dot-separated fields are all
    labels (the empty name has one empty field). -/
theorem validateClusterName_ok_iff {c : String} :
    validateClusterName c = .ok () ↔ ∀ l ∈ c.data.splitOn '.', labelOK l = true := by
  rw [← matches_dns1123Reg_iff, ← matchString_iff]
  obtain ⟨d⟩ := c
  cases d with
  | nil =>
      have : dns1123Reg.matchString "" = false := rfl
      simp [validateClusterName, this, throw, throwThe, MonadExceptOf.throw, bind, Except.bind]
  | cons x d =>
      by_cases h : dns1123Reg.matchString ⟨x :: d⟩ <;>
        simp [validateClusterName, h, String.length, throw, throwThe, MonadExceptOf.throw, bind,
          Except.bind, pure, Except.pure]

/-! ## §3. `<cluster>.<suffix>`. -/

/-- Splitting at a dot splits the fields. -/
theorem splitOn_append_dot (a b : List Char) :
    (a ++ '.' :: b).splitOn '.' = a.splitOn '.' ++ b.splitOn '.' := by
  simp only [List.splitOn]
  induction a with
  | nil => simp [List.splitOnP_cons]
  | cons x a ih =>
      rw [List.cons_append, List.splitOnP_cons, List.splitOnP_cons, ih]
      split
      · rfl
      · obtain ⟨l, ls, h⟩ := List.exists_cons_of_ne_nil (List.splitOnP_ne_nil (· == '.') a)
        rw [h]
        rfl

/-- What follows an accepted name's dot is accepted when the whole is. -/
theorem validateClusterName_ok_of_dot_append {a b : String}
    (h : validateClusterName (a ++ "." ++ b) = .ok ()) : validateClusterName b = .ok () := by
  rw [validateClusterName_ok_iff] at h ⊢
  intro l hl
  apply h
  simp [splitOn_append_dot, hl]

/-- Two cuts of one text at a dot: the same cut, or one lies further right. -/
theorem append_dot_eq_append_dot {a b s s' : List Char} (h : a ++ '.' :: s = b ++ '.' :: s') :
    a = b ∨ (∃ t, b = a ++ '.' :: t ∧ s = t ++ '.' :: s') ∨
      (∃ t, a = b ++ '.' :: t ∧ s' = t ++ '.' :: s) := by
  rcases List.append_eq_append_iff.1 h with ⟨_ | ⟨x, t⟩, rfl, hs⟩ | ⟨_ | ⟨x, t⟩, rfl, hs⟩
  · exact .inl (List.append_nil a).symm
  · simp only [List.cons_append, List.cons.injEq] at hs
    obtain ⟨rfl, rfl⟩ := hs
    exact .inr (.inl ⟨t, rfl, rfl⟩)
  · exact .inl (List.append_nil b)
  · simp only [List.cons_append, List.cons.injEq] at hs
    obtain ⟨rfl, rfl⟩ := hs
    exact .inr (.inr ⟨t, rfl, rfl⟩)

/-- A cut further right, as strings: the longer name is accepted after the shorter's dot. -/
theorem dot_extension_of_data {c c' s s' : String} {t : List Char}
    (hc : validateClusterName c' = .ok ()) (hd : c'.data = c.data ++ '.' :: t)
    (hs : s.data = t ++ '.' :: s'.data) :
    ∃ t, validateClusterName t = .ok () ∧ c' = c ++ "." ++ t ∧ s = t ++ "." ++ s' := by
  have hc' : c' = c ++ "." ++ ⟨t⟩ := String.ext (by simp [hd])
  exact ⟨⟨t⟩, validateClusterName_ok_of_dot_append (hc' ▸ hc), hc', String.ext (by simp [hs])⟩

/-- **A name `<cluster>.<suffix>` names its cluster only up to dotted extensions.** For two
    accepted cluster names `c1 ≠ c2`, `c1.s1 = c2.s2` holds iff one name is the other followed
    by a dot and an accepted name `t`, the suffix of the shorter beginning with `t.`. -/
theorem dotted_name_collision_iff {c1 c2 : String} (h1 : validateClusterName c1 = .ok ())
    (h2 : validateClusterName c2 = .ok ()) (hne : c1 ≠ c2) (s1 s2 : String) :
    c1 ++ "." ++ s1 = c2 ++ "." ++ s2 ↔
      (∃ t, validateClusterName t = .ok () ∧ c2 = c1 ++ "." ++ t ∧ s1 = t ++ "." ++ s2) ∨
      (∃ t, validateClusterName t = .ok () ∧ c1 = c2 ++ "." ++ t ∧ s2 = t ++ "." ++ s1) := by
  constructor
  · intro h
    have hd := congrArg String.data h
    simp only [String.data_append, List.append_assoc] at hd
    rcases append_dot_eq_append_dot hd with hcd | ⟨t, hc, hs⟩ | ⟨t, hc, hs⟩
    · exact absurd (String.ext hcd) hne
    · exact .inl (dot_extension_of_data h2 hc hs)
    · exact .inr (dot_extension_of_data h1 hc hs)
  · rintro (⟨t, -, rfl, rfl⟩ | ⟨t, -, rfl, rfl⟩) <;> simp only [String.append_assoc]


/-- Both hypotheses hold for `a` and `a.b`, whose client certificate common name `a.b.fabedge-client`
    is also `a` followed by a dot. -/
theorem dotted_name_collision_iff_a_ab :
    validateClusterName "a" = .ok () ∧ validateClusterName "a.b" = .ok () ∧ "a" ≠ "a.b" ∧
      ("a" ++ "." ++ "b.fabedge-client" = "a.b" ++ "." ++ "fabedge-client" ↔
        (∃ t, validateClusterName t = .ok () ∧ "a.b" = "a" ++ "." ++ t ∧
          "b.fabedge-client" = t ++ "." ++ "fabedge-client") ∨
        (∃ t, validateClusterName t = .ok () ∧ "a" = "a.b" ++ "." ++ t ∧
          "fabedge-client" = t ++ "." ++ "b.fabedge-client")) :=
  ⟨by decide, by decide, by decide,
    dotted_name_collision_iff (by decide) (by decide) (by decide) _ _⟩

/-- The accepted names `a` and `a.b` share a dotted reading: the client certificate common name of
    `a.b` is `a.` followed by `b.fabedge-client`. -/
theorem accepted_names_share_dotted_reading :
    ¬ ∀ c1 c2 s1 s2 : String, validateClusterName c1 = .ok () → validateClusterName c2 = .ok () →
      c1 ≠ c2 → c1 ++ "." ++ s1 ≠ c2 ++ "." ++ s2 := fun h =>
  h "a" "a.b" "b.fabedge-client" "fabedge-client" (by decide) (by decide) (by decide)
    (by decide : "a" ++ "." ++ "b.fabedge-client" = clientCommonName "a.b")

end FabEdge.Operator
