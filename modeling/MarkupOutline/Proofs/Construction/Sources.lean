import MarkupOutline.Proofs.Construction.Origins
import MarkupOutline.Proofs.Construction.Rules
import MarkupOutline.Tailed.Conversion

/-!
# The attributes of parsed elements

No element of a parsed tree has two attributes of one name: of those in a tag only the first is
kept, and where the rules of foreign content make one name of two, only one attribute is left. A
name with a slash in it comes from these rules alone, which put a few names into a namespace, and
any other name that begins with a brace stands in the markup. All of this is one property of
attribute lists (`AreParsed`), which start tags have and foreign content passes on.
-/

namespace MarkupOutline

namespace Html

/-! ## Characters of names -/

/-- A character of a name as it counts is the one that is written, unless it is a small letter or
stands for a null character. -/
theorem eq_of_nameChar {c d : Char} (h : withoutNull c.toLower = d)
    (hsmall : d.toNat < 97 ∨ 122 < d.toNat) (hnull : d ≠ Reference.replacement) : c = d := by
  have hlower : c.toLower = d := by
    unfold withoutNull at h
    split at h
    · exact absurd h.symm hnull
    · exact h
  unfold Char.toLower at hlower
  split at hlower
  · next hupper =>
    -- The small letter of a capital one has a code from 97 to 122.
    have hval := congrArg (fun e : Char => e.val.toNat) hlower
    have hfirst := UInt32.le_iff_toNat_le.1 hupper.1
    have hlast := UInt32.le_iff_toNat_le.1 hupper.2
    simp at hval hfirst hlast
    omega
  · exact hlower

/-- A slash in a name is one in the name as it is written. -/
theorem Token.mem_of_slash_mem_nameOf {word : List Char} (h : '/' ∈ (nameOf word).toList) :
    '/' ∈ word := by
  rw [nameOf, String.toList_ofList] at h
  obtain ⟨c, hc, heq⟩ := List.mem_map.1 h
  rwa [eq_of_nameChar heq (by decide) (by decide)] at hc

/-- A brace at the beginning of a name is one at the beginning of the name as it is written. -/
theorem Token.head?_of_head?_nameOf {word : List Char}
    (h : (nameOf word).toList.head? = some '\x7b') : word.head? = some '\x7b' := by
  rw [nameOf, String.toList_ofList, List.head?_map] at h
  obtain ⟨c, hc, heq⟩ := Option.map_eq_some_iff.1 h
  rwa [eq_of_nameChar heq (by decide) (by decide)] at hc

/-! ## Names in foreign content -/

/-- What a look-up finds is in the table. -/
theorem mem_of_lookup_eq_some {table : List (String × String)} {key value : String}
    (h : table.lookup key = some value) : (key, value) ∈ table := by
  obtain ⟨before, after, rfl, -⟩ := List.lookup_eq_some_iff.1 h
  simp

/-- The characters of a name in a namespace. -/
theorem toList_inNamespace (space name : String) :
    (inNamespace space name).toList = '\x7b' :: (space.toList ++ '\x7d' :: name.toList) := by
  simp [inNamespace]

/-- The namespaces of the table have a customary form, which makes of a name in the namespace the
name that is put there. -/
theorem exists_eq_inNamespace_of_mem {entry : String × String} (h : entry ∈ namespacedAttributes) :
    ∃ space base, entry.2 = inNamespace space base ∧ (namespacePrefixes.lookup space).map
      (fun short => if short = base then base else short ++ ":" ++ base) = some entry.1 := by
  simp only [namespacedAttributes, List.mem_cons, List.not_mem_nil, or_false] at h
  rcases h with rfl | rfl | rfl | rfl | rfl | rfl | rfl | rfl | rfl | rfl | rfl | rfl <;>
    exact ⟨_, _, rfl, by decide +kernel⟩

/-- Namespaces with a customary form have a slash and no brace in them. -/
theorem chars_of_mem_namespacePrefixes : ∀ entry ∈ namespacePrefixes,
    '/' ∈ entry.1.toList ∧ '\x7d' ∉ entry.1.toList := by
  decide +kernel

/-- The names of the table have a slash and a closing brace in them. -/
theorem chars_of_mem_namespacedAttributes {entry : String × String}
    (h : entry ∈ namespacedAttributes) : '/' ∈ entry.2.toList ∧ '\x7d' ∈ entry.2.toList := by
  obtain ⟨space, base, heq, hshort⟩ := exists_eq_inNamespace_of_mem h
  obtain ⟨short, hlookup, -⟩ := Option.map_eq_some_iff.1 hshort
  obtain ⟨hslash, -⟩ := chars_of_mem_namespacePrefixes _ (mem_of_lookup_eq_some hlookup)
  rw [heq, toList_inNamespace]
  exact ⟨List.mem_cons_of_mem _ (List.mem_append_left _ hslash), by simp⟩

/-- What is put there for a name of the table is found under it, and the name has no slash in it. -/
theorem lookup_of_mem_namespacedAttributes : ∀ entry ∈ namespacedAttributes,
    namespacedAttributes.lookup entry.1 = some entry.2 ∧ '/' ∉ entry.1.toList := by
  decide +kernel

/-- Names that are written in their own way have no slash and no brace in them. -/
theorem chars_of_mem_properNames : ∀ name ∈ "definitionURL" :: svgAttributeNames,
    '/' ∉ name.toList ∧ '\x7b' ∉ name.toList := by
  decide +kernel

/-- The proper name of an attribute is one that is written in its own way or the name itself. -/
theorem Space.attributeName_mem_or_eq (space : Space) (name : String) :
    space.attributeName name ∈ "definitionURL" :: svgAttributeNames ∨
      space.attributeName name = name := by
  cases space with
  | html => exact .inr rfl
  | math =>
    rw [attributeName]
    split
    · exact .inl (List.mem_cons_self ..)
    · exact .inr rfl
  | svg =>
    rw [attributeName]
    cases hfound : svgAttributeNames.find? fun proper => proper.toLower = name with
    | none => exact .inr rfl
    | some proper => exact .inl (List.mem_cons_of_mem _ (List.mem_of_find?_eq_some hfound))

/-- A name in foreign content is in a namespace, or it is not in the table of namespaces and was
given or is written in its own way. -/
theorem Space.exists_of_mem_attributes (space : Space) {given : List (String × String)}
    {name : String} (h : name ∈ (space.attributes given).map Prod.fst) :
    (∃ entry ∈ namespacedAttributes, entry.2 = name) ∨
      namespacedAttributes.lookup name = none ∧
        (name ∈ "definitionURL" :: svgAttributeNames ∨ name ∈ given.map Prod.fst) := by
  have hkeys := Entries.mem_keys_of_mem_ofList h
  rw [List.map_map] at hkeys
  obtain ⟨⟨source, value⟩, hsource, rfl⟩ := List.mem_map.1 hkeys
  rw [Function.comp_apply]
  dsimp only
  cases hlookup : namespacedAttributes.lookup (space.attributeName source) with
  | some named => exact .inl ⟨_, mem_of_lookup_eq_some hlookup, rfl⟩
  | none =>
    rw [Option.getD_none]
    refine .inr ⟨hlookup, (space.attributeName_mem_or_eq source).imp_right fun heq => ?_⟩
    rw [heq]
    exact List.mem_map_of_mem hsource

/-- No name in foreign content is one that the table puts into a namespace. -/
theorem Space.not_mem_attributes_of_mem (space : Space) (given : List (String × String))
    {entry : String × String} (h : entry ∈ namespacedAttributes) :
    entry.1 ∉ (space.attributes given).map Prod.fst := by
  intro hmem
  obtain ⟨hlookup, hslash⟩ := lookup_of_mem_namespacedAttributes entry h
  rcases space.exists_of_mem_attributes hmem with ⟨other, hother, heq⟩ | ⟨hnone, -⟩
  · exact hslash (heq ▸ (chars_of_mem_namespacedAttributes hother).1)
  · rw [hlookup] at hnone
    cases hnone

/-! ## Attribute lists -/

/-- What is true of the attributes of every element in the tree of a text. -/
structure AreParsed (s : List Char) (attributes : List (String × String)) : Prop where
  /-- No name occurs twice. -/
  nodup : (attributes.map Prod.fst).Nodup
  /-- A name with a slash has been put into a namespace, and no attribute has it as it was. -/
  namespaced : ∀ name ∈ attributes.map Prod.fst, '/' ∈ name.toList →
    ∃ entry ∈ namespacedAttributes, entry.2 = name ∧ entry.1 ∉ attributes.map Prod.fst
  /-- Any other name that begins with a brace stands in the text. -/
  written : ∀ name ∈ attributes.map Prod.fst, '/' ∉ name.toList →
    name.toList.head? = some '\x7b' → ∃ word, word <:+: s ∧ name = Token.nameOf word

/-- The attributes of a start tag. -/
theorem areParsed_of_namedIn {s : List Char} {attributes : List (String × String)}
    (hnodup : (attributes.map Prod.fst).Nodup) (hnamed : Token.NamedIn s attributes) :
    AreParsed s attributes where
  nodup := hnodup
  namespaced name hname hslash := by
    obtain ⟨a, ha, rfl⟩ := List.mem_map.1 hname
    obtain ⟨word, -, hword, heq⟩ := hnamed a ha
    rw [heq] at hslash
    exact absurd (Token.mem_of_slash_mem_nameOf hslash) hword
  written name hname _ _ := by
    obtain ⟨a, ha, rfl⟩ := List.mem_map.1 hname
    obtain ⟨word, hword, -, heq⟩ := hnamed a ha
    exact ⟨word, hword, heq⟩

/-- Attributes keep this property in foreign content. -/
theorem isInherited_areParsed (s : List Char) : IsInherited (AreParsed s) where
  nil := ⟨List.nodup_nil, nofun, nofun⟩
  foreign space given h := by
    have hunnamed {entry : String × String} (hentry : entry ∈ namespacedAttributes) :=
      space.not_mem_attributes_of_mem given hentry
    refine ⟨Entries.nodup_ofList _, fun name hname hslash => ?_, fun name hname hslash hhead => ?_⟩
    · rcases space.exists_of_mem_attributes hname with ⟨entry, hentry, rfl⟩ | ⟨-, hmem | hmem⟩
      · exact ⟨entry, hentry, rfl, hunnamed hentry⟩
      · exact absurd hslash (chars_of_mem_properNames name hmem).1
      · obtain ⟨entry, hentry, rfl, -⟩ := h.namespaced name hmem hslash
        exact ⟨entry, hentry, rfl, hunnamed hentry⟩
    · rcases space.exists_of_mem_attributes hname with ⟨entry, hentry, rfl⟩ | ⟨-, hmem | hmem⟩
      · exact absurd (chars_of_mem_namespacedAttributes hentry).1 hslash
      · exact absurd (List.mem_of_head? hhead) (chars_of_mem_properNames name hmem).2
      · exact h.written name hmem hslash hhead

/-- The attributes of all elements in the tree of a piece of markup. -/
theorem parseTree_areParsed (markup : String) :
    (parseTree markup).Carries (AreParsed (normalizeNewlines markup.toList)) := by
  refine parseTree_carries (Q := (· <:+ normalizeNewlines markup.toList))
    (isInherited_areParsed _) (fun model sections s hs => ?_) (List.suffix_refl _)
  have hfrom := (Token.next_from model sections s).mono hs
  refine ⟨fun token htoken => ?_, hfrom.rest⟩
  cases token with
  | startTag tag => exact areParsed_of_namedIn (hfrom.nodup tag htoken) (hfrom.named tag htoken)
  | _ => trivial

end Html

/-! ## Lists in a tree -/

namespace Tailed

mutual

/-- The attribute lists of the elements in a tree, in document order, without those inside of
comments and instructions. -/
def attributeLists : Tailed → List (List (String × String))
  | element _ attributes _ children _ => attributes :: listsWithin children
  | aside .. => []

/-- The attribute lists of the elements in trees side by side, in document order. -/
def listsWithin : List Tailed → List (List (String × String))
  | [] => []
  | tree :: more => tree.attributeLists ++ listsWithin more

end

variable {P : List (String × String) → Prop}

mutual

/-- What all attribute lists in a tree have in common is true of each of them. -/
theorem Carries.forall_attributeLists :
    ∀ {tree : Tailed}, tree.Carries P → ∀ given ∈ tree.attributeLists, P given
  | element .., h => by
    rw [attributeLists, List.forall_mem_cons]
    exact ⟨h.1, AllCarry.forall_listsWithin h.2⟩
  | aside .., _ => by
    rw [attributeLists]
    exact nofun

/-- The same of trees side by side. -/
theorem AllCarry.forall_listsWithin :
    ∀ {trees : List Tailed}, AllCarry P trees → ∀ given ∈ listsWithin trees, P given
  | [], _ => by
    rw [listsWithin]
    exact nofun
  | tree :: more, h => by
    rw [listsWithin, List.forall_mem_append]
    exact ⟨Carries.forall_attributeLists h.1, AllCarry.forall_listsWithin h.2⟩

end

mutual

/-- The number of instructions in a tree that a conversion comes upon and drops. -/
def dropped : Tailed → Nat
  | element _ _ _ children _ => droppedWithin children
  | aside .comment _ _ _ => 0
  | aside .instruction _ _ _ => 1

/-- The number of instructions in trees side by side that a conversion drops. -/
def droppedWithin : List Tailed → Nat
  | [] => 0
  | tree :: more => tree.dropped + droppedWithin more

end

mutual

/-- A tree of elements and comments has no instructions. -/
theorem Carries.dropped_eq_zero : ∀ {tree : Tailed}, tree.Carries P → tree.dropped = 0
  | element .., h => by
    rw [dropped, AllCarry.droppedWithin_eq_zero h.2]
  | aside .comment _ _ _, _ => by
    rw [dropped]

/-- The same of trees side by side. -/
theorem AllCarry.droppedWithin_eq_zero :
    ∀ {trees : List Tailed}, AllCarry P trees → droppedWithin trees = 0
  | [], _ => by
    rw [droppedWithin]
  | tree :: more, h => by
    rw [droppedWithin, Carries.dropped_eq_zero h.1, AllCarry.droppedWithin_eq_zero h.2]

end

/-- The trees inside a tree. -/
theorem Carries.allCarry_children {tree : Tailed} (h : tree.Carries P) :
    AllCarry P tree.children := by
  cases tree with
  | element => exact h.2
  | aside => exact h.2

end Tailed

/-- The attribute lists in a piece of markup, in document order. -/
@[irreducible]
def markupAttributes (markup : String) : List (List (String × String)) :=
  Tailed.listsWithin (Html.parseTree markup).children

/-- All of them are those of parsed elements. -/
theorem areParsed_of_mem_markupAttributes {markup : String} {given : List (String × String)}
    (h : given ∈ markupAttributes markup) :
    Html.AreParsed (Html.normalizeNewlines markup.toList) given := by
  rw [markupAttributes] at h
  exact (Html.parseTree_areParsed markup).allCarry_children.forall_listsWithin given h

/-- No instruction comes from markup. -/
theorem droppedWithin_parseTree (markup : String) :
    Tailed.droppedWithin (Html.parseTree markup).children = 0 :=
  (Html.parseTree_areParsed markup).allCarry_children.droppedWithin_eq_zero

end MarkupOutline
