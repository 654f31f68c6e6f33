import MarkupOutline.Draft.WellFormed
import MarkupOutline.Proofs.Construction.Sources
import MarkupOutline.Proofs.Conversion.Faults
import MarkupOutline.Proofs.Idempotence

/-!
# When formatting markup fails

Every text has a tree, every fragment has a rendering, and options that are not understood are
reported and passed over. So the conversion of the tree is all that can fail, and it does so at an
attribute name that opens a namespace and does not close it. No rule of construction makes up such a
name: it stands in the markup, and markup without an opening brace is always formatted.
-/

namespace MarkupOutline

/-! ## Names that open a namespace -/

/-- A name that opens a namespace is written with an opening brace first and no closing brace. -/
theorem exists_eq_cons_of_opensNamespace {word : List Char}
    (h : opensNamespace (Html.Token.nameOf word) = true) :
    ∃ rest, word = '\x7b' :: rest ∧ '\x7d' ∉ rest := by
  rw [opensNamespace, Bool.and_eq_true, beq_iff_eq, Bool.not_eq_true', List.contains_eq_mem,
    decide_eq_false_iff_not] at h
  obtain ⟨rest, rfl⟩ := List.head?_eq_some_iff.1 (Html.Token.head?_of_head?_nameOf h.1)
  refine ⟨rest, rfl, fun hmem => h.2 ?_⟩
  rw [Html.Token.nameOf, String.toList_ofList]
  exact List.mem_map.2 ⟨'\x7d', List.mem_cons_of_mem _ hmem, by decide⟩

namespace Html

/-- Line feeds are all that is written in the place of line breaks. -/
theorem mem_of_mem_normalizeNewlines {c : Char} {s : List Char} (h : c ∈ normalizeNewlines s) :
    c = '\n' ∨ c ∈ s := by
  fun_induction normalizeNewlines s with
  | case1 => cases h
  | case2 rest ih =>
    rcases List.mem_cons.1 h with rfl | h
    · exact .inl rfl
    · exact (ih h).imp_right fun hmem => List.mem_cons_of_mem _ (List.mem_cons_of_mem _ hmem)
  | case3 rest _ ih =>
    rcases List.mem_cons.1 h with rfl | h
    · exact .inl rfl
    · exact (ih h).imp_right (List.mem_cons_of_mem _)
  | case4 d rest _ _ ih =>
    rcases List.mem_cons.1 h with rfl | h
    · exact .inr (List.mem_cons_self ..)
    · exact (ih h).imp_right (List.mem_cons_of_mem _)

end Html

/-- A name of a parsed element that opens a namespace stands in the text. -/
theorem Html.AreParsed.exists_of_opensNamespace {s : List Char} {given : List (String × String)}
    (h : AreParsed s given) {name : String} (hname : name ∈ given.map Prod.fst)
    (hopens : opensNamespace name = true) : ∃ word, word <:+: s ∧ name = Token.nameOf word := by
  rw [opensNamespace, Bool.and_eq_true, beq_iff_eq, Bool.not_eq_true', List.contains_eq_mem,
    decide_eq_false_iff_not] at hopens
  refine h.written name hname (fun hslash => ?_) hopens.1
  obtain ⟨entry, hentry, rfl, -⟩ := h.namespaced name hname hslash
  exact hopens.2 (chars_of_mem_namespacedAttributes hentry).2

namespace Tailed

mutual

/-- The names in a tree are those in its attribute lists. -/
theorem attributeNames_eq_flatMap : (tree : Tailed) →
    tree.attributeNames = tree.attributeLists.flatMap (·.map Prod.fst)
  | element _ _ _ children _ => by
    rw [attributeNames, attributeLists, List.flatMap_cons, namesWithin_eq_flatMap children]
  | aside .. => by
    rw [attributeNames, attributeLists, List.flatMap_nil]

/-- The names in trees side by side are those in their attribute lists. -/
theorem namesWithin_eq_flatMap : (trees : List Tailed) →
    namesWithin trees = (listsWithin trees).flatMap (·.map Prod.fst)
  | [] => by
    rw [namesWithin, listsWithin, List.flatMap_nil]
  | tree :: more => by
    rw [namesWithin, listsWithin, List.flatMap_append, attributeNames_eq_flatMap tree,
      namesWithin_eq_flatMap more]

end

end Tailed

/-! ## Markup -/

/-- The names of the attributes in a piece of markup, in document order. -/
@[irreducible]
def markupNames (markup : String) : List String :=
  Tailed.namesWithin (Html.parseTree markup).children

/-- Markup is a fragment unless one of its names opens a namespace. -/
theorem failsAtFirst_ofMarkup (markup : String) :
    FailsAtFirst (markupNames markup) (Fragment.ofMarkup markup) := by
  by_cases hempty : markup.isEmpty = true
  · have hnames : markupNames "" = [] := by decide +kernel
    rw [Fragment.ofMarkup, if_pos hempty, String.isEmpty_iff.1 hempty, hnames]
    exact failsAtFirst_pure _
  · rw [Fragment.ofMarkup, if_neg hempty, markupNames]
    exact (Tailed.failsAtFirst_content _).map _

/-- A name of markup that opens a namespace stands in the markup. -/
theorem exists_infix_of_mem_markupNames {markup name : String} (hmem : name ∈ markupNames markup)
    (hopens : opensNamespace name = true) :
    ∃ rest, '\x7b' :: rest <:+: Html.normalizeNewlines markup.toList ∧ '\x7d' ∉ rest ∧
      name = Html.Token.nameOf ('\x7b' :: rest) := by
  rw [markupNames, Tailed.namesWithin_eq_flatMap] at hmem
  obtain ⟨given, hgiven, hname⟩ := List.mem_flatMap.1 hmem
  rw [← markupAttributes] at hgiven
  obtain ⟨word, hword, rfl⟩ :=
    (areParsed_of_mem_markupAttributes hgiven).exists_of_opensNamespace hname hopens
  obtain ⟨rest, rfl, hclosing⟩ := exists_eq_cons_of_opensNamespace hopens
  exact ⟨rest, hword, hclosing, rfl⟩

/-- Formatting markup has a result if and only if no attribute name in its tree begins with an
opening brace without having a closing one. The first such name is the fault, and it stands in the
markup. -/
theorem outlineOf_str_eq_ok_iff (inForce : Options) (request : Request) (markup : String) :
    ((∃ f, Fragment.ofMarkup markup = .ok f ∧
        (Draft.ofFragment f).render (request.resolve inForce).1 =
          .ok (f.render (request.resolve inForce).1) ∧
        (outlineOf inForce request (.value (.str markup))).1 =
          .ok (f.render (request.resolve inForce).1)) ↔
      (markupNames markup).find? opensNamespace = none) ∧
    ∀ name, (markupNames markup).find? opensNamespace = some name →
      Fragment.ofMarkup markup = .error (.openNamespace name) ∧
      (outlineOf inForce request (.value (.str markup))).1 =
        .error (.conversion (.openNamespace name)) ∧
      ∃ rest, '\x7b' :: rest <:+: Html.normalizeNewlines markup.toList ∧ '\x7d' ∉ rest ∧
        name = Html.Token.nameOf ('\x7b' :: rest) := by
  have hfails := failsAtFirst_ofMarkup markup
  refine ⟨⟨?_, fun hnone => ?_⟩, fun name hfound => ⟨hfails.eq_error hfound, ?_, ?_⟩⟩
  · rintro ⟨f, hf, -⟩
    cases hfound : (markupNames markup).find? opensNamespace with
    | none => rfl
    | some name =>
      rw [hfails.eq_error hfound] at hf
      cases hf
  · obtain ⟨f, hf⟩ := hfails.exists_ok hnone
    exact ⟨f, hf, Draft.render_ofFragment _ f, outlineOf_str inForce request hf⟩
  · rw [outlineOf]
    dsimp only
    rw [Value.toFragment_str, hfails.eq_error hfound]
    rfl
  · exact exists_infix_of_mem_markupNames (List.mem_of_find?_eq_some hfound)
      (List.find?_some hfound)

/-- Markup without an opening brace is always formatted. -/
theorem exists_outlineOf_str_of_not_mem (inForce : Options) (request : Request) {markup : String}
    (h : '\x7b' ∉ markup.toList) :
    ∃ s, (outlineOf inForce request (.value (.str markup))).1 = .ok s := by
  have hfails := failsAtFirst_ofMarkup markup
  have hnone : (markupNames markup).find? opensNamespace = none := by
    rw [List.find?_eq_none]
    intro name hmem hopens
    obtain ⟨rest, hinfix, -⟩ := exists_infix_of_mem_markupNames hmem hopens
    have hbrace := hinfix.subset (List.mem_cons_self ..)
    rcases Html.mem_of_mem_normalizeNewlines hbrace with hbrace | hbrace
    · cases hbrace
    · exact h hbrace
  obtain ⟨f, hf⟩ := hfails.exists_ok hnone
  exact ⟨_, outlineOf_str inForce request hf⟩

/-- A brace in front of the name of an attribute is no namespace, but formatting fails at it. -/
theorem outlineOf_brace :
    Fragment.ofMarkup "<p \x7ba>" = .error (.openNamespace "\x7ba") ∧
      (outlineOf .default .current (.value (.str "<p \x7ba>"))).1 =
        .error (.conversion (.openNamespace "\x7ba")) := by
  decide +kernel

end MarkupOutline
