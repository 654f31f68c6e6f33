import MarkupOutline.Proofs.Conversion.Conservation
import MarkupOutline.Proofs.Conversion.Totality

/-!
# Names that are written alike

The attributes of a parsed element are named differently, but a conversion changes names. Those in a
namespace with a customary form come out as the names that foreign content has made them of, which
no other attribute has by then (`Html.AreParsed.attributeName_cases`). A name that is written with a
namespace of its own loses it, and what is left may be the name of another attribute: that is the
one way in which two attributes come to have the same name (`nodup_iff_not_clashes`).
-/

namespace MarkupOutline

/-! ## Names that lose a namespace -/

/-- A name in a namespace is parted into the two. -/
theorem splitAtBrace_inNamespace {space : String} (h : '\x7d' ∉ space.toList) (base : String) :
    splitAtBrace (space.toList ++ '\x7d' :: base.toList) = some (space.toList, base.toList) :=
  splitAtBrace_eq_some_iff.2 ⟨rfl, h⟩

/-- A name in a namespace is converted to its customary form, and loses a namespace without one. -/
theorem attributeName_inNamespace {space : String} (h : '\x7d' ∉ space.toList) (base : String) :
    attributeName (Html.inNamespace space base) = .ok (((namespacePrefixes.lookup space).map
      fun short => if short = base then base else short ++ ":" ++ base).getD base) := by
  rw [attributeName, Html.toList_inNamespace]
  simp only [splitAtBrace_inNamespace h, String.ofList_toList]
  cases namespacePrefixes.lookup space with
  | none => rfl
  | some short =>
    dsimp only [Option.map_some, Option.getD_some]
    split <;> rfl

/-- A name is in a namespace that has no customary form, and is named so without it. -/
def IsStripped (name base : String) : Prop :=
  ∃ space, name = Html.inNamespace space base ∧ '\x7d' ∉ space.toList ∧
    namespacePrefixes.lookup space = none

/-- A name that loses its namespace. -/
theorem IsStripped.attributeName_eq {name base : String} (h : IsStripped name base) :
    attributeName name = .ok base := by
  obtain ⟨space, rfl, hspace, hlookup⟩ := h
  rw [attributeName_inNamespace hspace, hlookup, Option.map_none, Option.getD_none]

/-- A name stays as it is, loses its namespace, or has a slash in it. -/
theorem attributeName_cases {name converted : String} (h : attributeName name = .ok converted) :
    converted = name ∨ IsStripped name converted ∨ '/' ∈ name.toList := by
  unfold attributeName at h
  split at h
  · next rest hname =>
    split at h
    · cases h
    · next space behind hsplit =>
      obtain ⟨rfl, hspace⟩ := splitAtBrace_eq_some_iff.1 hsplit
      dsimp only at h
      split at h
      · next hlookup =>
        cases h
        refine .inr (.inl ⟨String.ofList space, ?_, by rwa [String.toList_ofList], hlookup⟩)
        rw [← String.toList_inj, Html.toList_inNamespace, hname, String.toList_ofList,
          String.toList_ofList]
      · next short hlookup =>
        obtain ⟨hslash, -⟩ :=
          Html.chars_of_mem_namespacePrefixes _ (Html.mem_of_lookup_eq_some hlookup)
        rw [String.toList_ofList] at hslash
        rw [hname]
        exact .inr (.inr (List.mem_cons_of_mem _ (List.mem_append_left _ hslash)))
  · cases h
    exact .inl rfl

/-- The names of the table of namespaces come out as the names that are put there, and lose
nothing. -/
theorem attributeName_of_mem_namespacedAttributes {entry : String × String}
    (h : entry ∈ Html.namespacedAttributes) :
    attributeName entry.2 = .ok entry.1 ∧ ∀ base, ¬ IsStripped entry.2 base := by
  obtain ⟨space, base, heq, hshort⟩ := Html.exists_eq_inNamespace_of_mem h
  obtain ⟨short, hlookup, -⟩ := Option.map_eq_some_iff.1 hshort
  have hspace : '\x7d' ∉ space.toList :=
    (Html.chars_of_mem_namespacePrefixes _ (Html.mem_of_lookup_eq_some hlookup)).2
  rw [heq, attributeName_inNamespace hspace, hshort]
  refine ⟨rfl, fun base' ⟨space', heq', hspace', hlookup'⟩ => ?_⟩
  -- A name can be parted in one way only, so the namespace that is lost has a customary form.
  have htail := congrArg (fun name : String => splitAtBrace name.toList.tail) heq'
  rw [Html.toList_inNamespace, Html.toList_inNamespace, List.tail_cons, List.tail_cons,
    splitAtBrace_inNamespace hspace, splitAtBrace_inNamespace hspace', Option.some_inj,
    Prod.mk.injEq, String.toList_inj] at htail
  rw [htail.1, hlookup'] at hlookup
  cases hlookup

/-! ## Names of one element -/

variable {s : List Char} {given written : List (String × String)}

/-- A name of a parsed element stays as it is, loses its namespace, or has been put into a namespace
and comes out as it was before, which is the name of no other attribute. -/
theorem Html.AreParsed.attributeName_cases (h : AreParsed s given) {name converted : String}
    (hname : name ∈ given.map Prod.fst) (hconverted : attributeName name = .ok converted) :
    converted = name ∨ IsStripped name converted ∨
      (converted, name) ∈ namespacedAttributes ∧ converted ∉ given.map Prod.fst := by
  refine (MarkupOutline.attributeName_cases hconverted).imp_right (Or.imp_right fun hslash => ?_)
  obtain ⟨entry, hentry, rfl, hunnamed⟩ := h.namespaced name hname hslash
  rw [(attributeName_of_mem_namespacedAttributes hentry).1] at hconverted
  obtain rfl := Except.ok.inj hconverted
  exact ⟨hentry, hunnamed⟩

/-- Of two names of a parsed element that are converted to the same one, one loses its namespace. -/
theorem Html.AreParsed.isStripped_of_attributeName_eq (h : AreParsed s given)
    {name other converted : String} (hname : name ∈ given.map Prod.fst)
    (hother : other ∈ given.map Prod.fst) (hne : name ≠ other)
    (hconverted : attributeName name = .ok converted)
    (hconverted' : attributeName other = .ok converted) :
    IsStripped name converted ∨ IsStripped other converted := by
  rcases h.attributeName_cases hname hconverted with rfl | hstripped | ⟨hentry, hunnamed⟩
  · rcases h.attributeName_cases hother hconverted' with heq | hstripped | ⟨-, hunnamed⟩
    · exact absurd heq hne
    · exact .inr hstripped
    · exact absurd hname hunnamed
  · exact .inl hstripped
  · rcases h.attributeName_cases hother hconverted' with rfl | hstripped | ⟨hentry', -⟩
    · exact absurd hother hunnamed
    · exact .inr hstripped
    · have hlookup := (lookup_of_mem_namespacedAttributes _ hentry).1
      rw [(lookup_of_mem_namespacedAttributes _ hentry').1] at hlookup
      exact absurd (Option.some.inj hlookup).symm hne

/-- Two attributes with different names come to have the same name when one of them loses its
namespace. -/
def Clashes (given : List (String × String)) : Prop :=
  ∃ a ∈ given, ∃ b ∈ given, a.1 ≠ b.1 ∧
    ∃ base, IsStripped a.1 base ∧ attributeName b.1 = .ok base

/-- The attributes of a parsed element are written with different names unless two of them clash. -/
theorem nodup_iff_not_clashes (h : Html.AreParsed s given) (hwritten : AreWritten given written) :
    (written.map Prod.fst).Nodup ↔ ¬ Clashes given := by
  have hnames : (given.map Prod.fst).map attributeName =
      (written.map Prod.fst).map Except.ok := by
    have hfst := congrArg (List.map Prod.fst) hwritten
    simpa only [List.map_map, Function.comp_def] using hfst
  rw [← List.nodup_map_iff (fun _ _ => Except.ok.inj), ← hnames,
    List.nodup_map_iff_inj_on h.nodup]
  constructor
  · rintro hinj ⟨a, ha, b, hb, hne, base, hstripped, hbase⟩
    refine hne (hinj _ (List.mem_map_of_mem ha) _ (List.mem_map_of_mem hb) ?_)
    rw [hstripped.attributeName_eq, hbase]
  · intro hclashes name hname other hother heq
    by_contra hne
    obtain ⟨converted, hconverted⟩ : ∃ converted, attributeName name = .ok converted := by
      have hmem := List.mem_map_of_mem (f := attributeName) hname
      rw [hnames] at hmem
      obtain ⟨converted, -, hconverted⟩ := List.mem_map.1 hmem
      exact ⟨converted, hconverted.symm⟩
    obtain ⟨a, ha, rfl⟩ := List.mem_map.1 hname
    obtain ⟨b, hb, rfl⟩ := List.mem_map.1 hother
    have hconverted' := heq ▸ hconverted
    rcases h.isStripped_of_attributeName_eq hname hother hne hconverted hconverted' with
      hstripped | hstripped
    · exact hclashes ⟨a, ha, b, hb, hne, converted, hstripped, hconverted'⟩
    · exact hclashes ⟨b, hb, a, ha, Ne.symm hne, converted, hstripped, hconverted⟩

/-- A name of a parsed element that loses its namespace stands in the text. -/
theorem Html.AreParsed.exists_of_isStripped (h : AreParsed s given) {name base : String}
    (hname : name ∈ given.map Prod.fst) (hstripped : IsStripped name base) :
    ∃ rest, '\x7b' :: rest <:+: s ∧ name = Token.nameOf ('\x7b' :: rest) := by
  have hslash : '/' ∉ name.toList := by
    intro hslash
    obtain ⟨entry, hentry, rfl, -⟩ := h.namespaced name hname hslash
    exact (attributeName_of_mem_namespacedAttributes hentry).2 base hstripped
  have hhead : name.toList.head? = some '\x7b' := by
    obtain ⟨space, rfl, -⟩ := hstripped
    rw [toList_inNamespace, List.head?_cons]
  obtain ⟨word, hword, rfl⟩ := h.written name hname hslash hhead
  obtain ⟨rest, rfl⟩ := List.head?_eq_some_iff.1 (Token.head?_of_head?_nameOf hhead)
  exact ⟨rest, hword, rfl⟩

/-! ## Names in a fragment -/

mutual

/-- The attribute lists of the elements in a node, in document order. -/
def Node.attributeLists : Node → List (List (String × String))
  | .element _ attributes children => attributes :: attributeListsWithin children
  | .text _ => []
  | .comment _ => []

/-- The attribute lists of the elements in nodes side by side, in document order. -/
def attributeListsWithin : List Node → List (List (String × String))
  | [] => []
  | node :: more => node.attributeLists ++ attributeListsWithin more

end

/-- The attribute lists of all elements of a fragment, in document order. -/
def Fragment.attributeLists (f : Fragment) : List (List (String × String)) :=
  attributeListsWithin f.children

/-- The lists in nodes side by side are those in the first and those in the others. -/
theorem attributeListsWithin_append (before behind : List Node) :
    attributeListsWithin (before ++ behind) =
      attributeListsWithin before ++ attributeListsWithin behind := by
  induction before with
  | nil => rfl
  | cons node more ih =>
    rw [List.cons_append, attributeListsWithin, attributeListsWithin, ih, List.append_assoc]

/-- Texts have no attributes. -/
theorem attributeListsWithin_textNodes (s : String) : attributeListsWithin (textNodes s) = [] := by
  unfold textNodes
  split <;> rfl

namespace Tailed

mutual

/-- The attribute lists of a tree are written in its node, one for one. -/
theorem forall₂_attributeLists : ∀ {tree : Tailed} {node : Option Node}, tree.toNode? = .ok node →
    List.Forall₂ AreWritten tree.attributeLists (attributeListsWithin node.toList)
  | element .., node, h => by
    obtain ⟨written, hwritten, nodes, hnodes, rfl⟩ := toNode?_element_eq_ok_iff.1 h
    rw [attributeLists, Option.toList_some, attributeListsWithin, attributeListsWithin,
      List.append_nil, Node.attributeLists, attributeListsWithin_append,
      attributeListsWithin_textNodes, List.nil_append]
    exact .cons (areWritten_of_mapM hwritten) (forall₂_listsWithin hnodes)
  | aside .comment _ _ _, _, h => by
    cases h
    exact .nil
  | aside .instruction _ _ _, _, h => by
    cases h
    exact .nil

/-- The attribute lists of trees side by side are written in their nodes, one for one. -/
theorem forall₂_listsWithin : ∀ {trees : List Tailed} {nodes : List Node},
    toNodes trees = .ok nodes →
      List.Forall₂ AreWritten (listsWithin trees) (attributeListsWithin nodes)
  | [], _, h => by
    cases h
    exact .nil
  | tree :: more, _, h => by
    obtain ⟨node, hnode, rest, hrest, rfl⟩ := toNodes_cons_eq_ok_iff.1 h
    rw [listsWithin, attributeListsWithin_append, attributeListsWithin_append,
      attributeListsWithin_textNodes, List.append_nil]
    exact List.rel_append (forall₂_attributeLists hnode) (forall₂_listsWithin hrest)

end

end Tailed

/-- The attribute lists of markup are written in its fragment, one for one. -/
theorem Fragment.forall₂_attributeLists {markup : String} {f : Fragment}
    (h : Fragment.ofMarkup markup = .ok f) :
    List.Forall₂ AreWritten (markupAttributes markup) f.attributeLists := by
  by_cases hempty : markup.isEmpty = true
  · have hlists : markupAttributes "" = [] := by decide +kernel
    rw [Fragment.ofMarkup, if_pos hempty] at h
    obtain rfl := Except.ok.inj h
    rw [String.isEmpty_iff.1 hempty, hlists]
    exact .nil
  · rw [Fragment.ofMarkup, if_neg hempty] at h
    obtain ⟨nodes, hnodes, rfl⟩ := map_eq_ok_iff.1 h
    obtain ⟨inside, hinside, rfl⟩ := map_eq_ok_iff.1 hnodes
    rw [markupAttributes, attributeLists, attributeListsWithin_append,
      attributeListsWithin_textNodes, List.nil_append]
    exact Tailed.forall₂_listsWithin hinside

/-- Of two lists that go together, all items of the one have a property if all of the other have the
one that goes with it. -/
theorem forall_mem_iff_of_forall₂ {α β : Type} {P : α → Prop} {Q : β → Prop} {as : List α}
    {bs : List β} (h : List.Forall₂ (fun a b => Q b ↔ P a) as bs) :
    (∀ b ∈ bs, Q b) ↔ ∀ a ∈ as, P a := by
  induction h with
  | nil => exact ⟨fun _ => nofun, fun _ => nofun⟩
  | cons hab _ ih => rw [List.forall_mem_cons, List.forall_mem_cons, hab, ih]

/-- The elements of a fragment have the attributes of the markup, of which no two in an element are
named alike. In the fragment they are named alike exactly where two attributes clash, that is, where
one of them loses a namespace and is then named as the other. A name that loses a namespace stands
in the markup, so without an opening brace no two attributes of an element are named alike. -/
theorem Fragment.nodup_attributeLists {markup : String} {f : Fragment}
    (h : Fragment.ofMarkup markup = .ok f) :
    List.Forall₂ (fun given written => AreWritten given written ∧ (given.map Prod.fst).Nodup ∧
      ((written.map Prod.fst).Nodup ↔ ¬ Clashes given)) (markupAttributes markup)
        f.attributeLists ∧
    ((∀ written ∈ f.attributeLists, (written.map Prod.fst).Nodup) ↔
      ∀ given ∈ markupAttributes markup, ¬ Clashes given) ∧
    (∀ given ∈ markupAttributes markup, ∀ a ∈ given, ∀ base, IsStripped a.1 base →
      ∃ rest, '\x7b' :: rest <:+: Html.normalizeNewlines markup.toList ∧
        a.1 = Html.Token.nameOf ('\x7b' :: rest)) ∧
    ('\x7b' ∉ markup.toList → ∀ written ∈ f.attributeLists, (written.map Prod.fst).Nodup) := by
  have hparsed : ∀ given ∈ markupAttributes markup,
      Html.AreParsed (Html.normalizeNewlines markup.toList) given :=
    fun given hgiven => areParsed_of_mem_markupAttributes hgiven
  have hlists := (List.forall₂_and_left _ _).2 ⟨hparsed, forall₂_attributeLists h⟩
  have hiff : (∀ written ∈ f.attributeLists, (written.map Prod.fst).Nodup) ↔
      ∀ given ∈ markupAttributes markup, ¬ Clashes given :=
    forall_mem_iff_of_forall₂ (hlists.imp fun _ _ hlist => nodup_iff_not_clashes hlist.1 hlist.2)
  have hstands : ∀ given ∈ markupAttributes markup, ∀ a ∈ given, ∀ base, IsStripped a.1 base →
      ∃ rest, '\x7b' :: rest <:+: Html.normalizeNewlines markup.toList ∧
        a.1 = Html.Token.nameOf ('\x7b' :: rest) :=
    fun given hgiven a ha base hstripped =>
      (hparsed given hgiven).exists_of_isStripped (List.mem_map_of_mem ha) hstripped
  refine ⟨hlists.imp fun given written hlist => ?_, hiff, hstands, fun hbrace => hiff.2 ?_⟩
  · exact ⟨hlist.2, hlist.1.nodup, nodup_iff_not_clashes hlist.1 hlist.2⟩
  · rintro given hgiven ⟨a, ha, b, -, -, base, hstripped, -⟩
    obtain ⟨rest, hinfix, -⟩ := hstands given hgiven a ha base hstripped
    have hopening := hinfix.subset (List.mem_cons_self ..)
    rcases Html.mem_of_mem_normalizeNewlines hopening with hopening | hopening
    · cases hopening
    · exact hbrace hopening

/-- A formula whose attributes are all written with different names, one of them in its customary
form and one without the namespace that it had. -/
theorem Fragment.nodup_attributeLists_formula :
    Fragment.ofMarkup "<math xlink:href=1 \x7bu\x7da=2></math>" =
      .ok ⟨[.element "math" [("xlink:href", "1"), ("a", "2")] []]⟩ ∧
    ∀ given ∈ markupAttributes "<math xlink:href=1 \x7bu\x7da=2></math>", ¬ Clashes given := by
  have h : Fragment.ofMarkup "<math xlink:href=1 \x7bu\x7da=2></math>" =
      .ok ⟨[.element "math" [("xlink:href", "1"), ("a", "2")] []]⟩ := by decide +kernel
  exact ⟨h, (Fragment.nodup_attributeLists h).2.1.1 (by decide +kernel)⟩

/-- Two attributes with different names in the markup are written with the same name. -/
theorem Fragment.attributeLists_repeated :
    ∃ f, Fragment.ofMarkup "<p a=1 \x7bu\x7da=2>" = .ok f ∧
      ¬ ∀ written ∈ f.attributeLists, (written.map Prod.fst).Nodup :=
  ⟨⟨[.element "p" [("a", "1"), ("a", "2")] []]⟩, by decide +kernel⟩

end MarkupOutline
