import MarkupOutline.Proofs.Conversion.Faults
import MarkupOutline.Proofs.Traversal

/-!
# What a conversion keeps

A tailed tree spreads character data over elements and over whatever they follow; among nodes it
stands in texts of its own. The texts that come out are the pieces that were there, in document
order and without the empty ones (`texts_content`), so no character is lost, not even behind an
instruction that is dropped. Elements and comments come out one for one, in the same order and at
the same depth (`Node.StandsFor`). Of two texts side by side the second is always the tail of a
dropped instruction (`parted_content`).

All of this is shown by following the recursion of the conversion, which `toNode?_element_eq_ok_iff`
and `toNodes_cons_eq_ok_iff` take apart once.
-/

namespace MarkupOutline

/-! ## Texts among nodes -/

mutual

/-- The values of the texts in a node, in document order. -/
def Node.texts : Node → List String
  | .element _ _ children => textsWithin children
  | .text value => [value]
  | .comment _ => []

/-- The values of the texts in nodes side by side, in document order. -/
def textsWithin : List Node → List String
  | [] => []
  | node :: more => node.texts ++ textsWithin more

end

/-- The texts of nodes are those of the first and those of the others. -/
theorem textsWithin_append (before behind : List Node) :
    textsWithin (before ++ behind) = textsWithin before ++ textsWithin behind := by
  induction before with
  | nil => rfl
  | cons node more ih => rw [List.cons_append, textsWithin, textsWithin, ih, List.append_assoc]

/-- A text is one node unless it is empty. -/
theorem textsWithin_textNodes (s : String) :
    textsWithin (textNodes s) = [s].filter fun piece => !piece.isEmpty := by
  unfold textNodes
  cases h : s.isEmpty <;> simp [h, textsWithin, Node.texts]

/-- The nodes of a text are texts. -/
theorem filter_textNodes (s : String) : (textNodes s).filter (fun node => !node.isText) = [] := by
  unfold textNodes
  split <;> rfl

namespace Tailed

/-! ## What is read in a tree -/

/-- The attributes of an element. -/
def attributes : Tailed → List (String × String)
  | element _ attributes _ _ _ => attributes
  | aside .. => []

/-- Whether a tree is a processing instruction. -/
def isInstruction : Tailed → Bool
  | aside .instruction _ _ _ => true
  | _ => false

/-- A tree that is an instruction. -/
theorem exists_eq_of_isInstruction {tree : Tailed} (h : tree.isInstruction = true) :
    ∃ own inside tail, tree = aside .instruction own inside tail := by
  cases tree with
  | element => cases h
  | aside kind own inside tail =>
    cases kind with
    | comment => cases h
    | instruction => exact ⟨own, inside, tail, rfl⟩

mutual

/-- The pieces of character data in a tree without its tail, in document order: those of an element
are its text and what is inside of it, and a comment or an instruction has none. -/
def pieces : Tailed → List String
  | element _ _ text children _ => text :: piecesWithin children
  | aside .. => []

/-- The pieces of character data in trees side by side, in document order: those of each tree, and
behind them its tail. -/
def piecesWithin : List Tailed → List String
  | [] => []
  | tree :: more => tree.pieces ++ tree.tail :: piecesWithin more

end

/-- An element is among trees side by side, or inside of an element that is. What is inside of a
comment or of an instruction is not reached. -/
inductive Reached : List Tailed → Tailed → Prop
  | here {trees : List Tailed} {name : String} {attributes : List (String × String)}
      {text : String} {children : List Tailed} {tail : String}
      (h : element name attributes text children tail ∈ trees) :
      Reached trees (element name attributes text children tail)
  | inside {trees : List Tailed} {name : String} {attributes : List (String × String)}
      {text : String} {children : List Tailed} {tail : String} {e : Tailed}
      (h : element name attributes text children tail ∈ trees) (he : Reached children e) :
      Reached trees e

/-- What is reached from some trees is reached if there are more of them. -/
theorem Reached.mono {trees more : List Tailed} {e : Tailed} (h : Reached trees e)
    (hmore : trees ⊆ more) : Reached more e := by
  cases h with
  | here h => exact .here (hmore h)
  | inside h he => exact .inside (hmore h) he

/-! ## Names that are converted -/

/-- The names in one of the trees are among the names in all of them. -/
theorem attributeNames_subset {tree : Tailed} {trees : List Tailed} (h : tree ∈ trees) :
    tree.attributeNames ⊆ namesWithin trees := by
  induction trees with
  | nil => cases h
  | cons other more ih =>
    rw [namesWithin]
    rcases List.mem_cons.1 h with rfl | h
    · exact List.subset_append_left _ _
    · exact List.Subset.trans (ih h) (List.subset_append_right _ _)

mutual

/-- A name in a tree is the name of an attribute of an element that is reached. -/
theorem exists_reached_of_mem_attributeNames {name : String} :
    ∀ {tree : Tailed}, name ∈ tree.attributeNames →
      ∃ e, Reached [tree] e ∧ name ∈ e.attributes.map Prod.fst
  | element .., h => by
    rw [attributeNames] at h
    rcases List.mem_append.1 h with h | h
    · exact ⟨_, .here (List.mem_singleton_self _), h⟩
    · obtain ⟨e, he, hname⟩ := exists_reached_of_mem_namesWithin h
      exact ⟨e, .inside (List.mem_singleton_self _) he, hname⟩
  | aside .., h => by
    rw [attributeNames] at h
    cases h

/-- A name in trees side by side is the name of an attribute of an element that is reached. -/
theorem exists_reached_of_mem_namesWithin {name : String} :
    ∀ {trees : List Tailed}, name ∈ namesWithin trees →
      ∃ e, Reached trees e ∧ name ∈ e.attributes.map Prod.fst
  | [], h => by
    rw [namesWithin] at h
    cases h
  | tree :: more, h => by
    rw [namesWithin] at h
    rcases List.mem_append.1 h with h | h
    · obtain ⟨e, he, hname⟩ := exists_reached_of_mem_attributeNames h
      exact ⟨e, he.mono (List.cons_subset_cons _ (List.nil_subset _)), hname⟩
    · obtain ⟨e, he, hname⟩ := exists_reached_of_mem_namesWithin h
      exact ⟨e, he.mono (List.subset_cons_self ..), hname⟩

end

/-- The attributes of an element that is reached have their names among those of the trees. -/
theorem Reached.names_subset {trees : List Tailed} {e : Tailed} (h : Reached trees e) :
    e.attributes.map Prod.fst ⊆ namesWithin trees := by
  induction h with
  | here h =>
    refine List.Subset.trans ?_ (attributeNames_subset h)
    rw [attributeNames]
    exact List.subset_append_left _ _
  | inside h _ ih =>
    refine List.Subset.trans ih (List.Subset.trans ?_ (attributeNames_subset h))
    rw [attributeNames]
    exact List.subset_append_right _ _

/-- A conversion fails if and only if an element that is reached has an attribute whose name opens a
namespace. -/
theorem exists_content_eq_error_iff (root : Tailed) :
    (∃ fault, root.content = .error fault) ↔
      ∃ e, Reached root.children e ∧ ∃ a ∈ e.attributes, opensNamespace a.1 = true := by
  have hfails := failsAtFirst_content root
  constructor
  · rintro ⟨fault, hfault⟩
    cases hfound : (namesWithin root.children).find? opensNamespace with
    | none =>
      obtain ⟨nodes, hnodes⟩ := hfails.exists_ok hfound
      rw [hnodes] at hfault
      cases hfault
    | some name =>
      obtain ⟨e, he, hname⟩ := exists_reached_of_mem_namesWithin (List.mem_of_find?_eq_some hfound)
      obtain ⟨a, ha, rfl⟩ := List.mem_map.1 hname
      exact ⟨e, he, a, ha, List.find?_some hfound⟩
  · rintro ⟨e, he, a, ha, hopens⟩
    have hname := he.names_subset (List.mem_map_of_mem ha)
    obtain ⟨name, hfound⟩ := Option.isSome_iff_exists.1 (List.find?_isSome.2 ⟨_, hname, hopens⟩)
    exact ⟨_, hfails.eq_error hfound⟩

/-! ## The steps of a conversion -/

/-- An element is converted by converting its attributes and what is inside of it. -/
theorem toNode?_element_eq_ok_iff {name : String} {attributes : List (String × String)}
    {text : String} {children : List Tailed} {tail : String} {node : Option Node} :
    (element name attributes text children tail).toNode? = .ok node ↔
      ∃ written, attributes.mapM (fun a => (attributeName a.1).map (·, a.2)) = .ok written ∧
        ∃ nodes, toNodes children = .ok nodes ∧
          some (.element (localName name) written (textNodes text ++ nodes)) = node := by
  rw [toNode?, bind_eq_ok_iff]
  simp only [bind_eq_ok_iff, pure_eq_ok_iff]

/-- Trees side by side are converted one after the other. -/
theorem toNodes_cons_eq_ok_iff {tree : Tailed} {more : List Tailed} {nodes : List Node} :
    toNodes (tree :: more) = .ok nodes ↔
      ∃ node, tree.toNode? = .ok node ∧ ∃ rest, toNodes more = .ok rest ∧
        node.toList ++ textNodes tree.tail ++ rest = nodes := by
  rw [toNodes, bind_eq_ok_iff]
  simp only [bind_eq_ok_iff, pure_eq_ok_iff]

/-- Only an instruction has no node, and the node of anything else is no text. -/
theorem eq_none_or_of_toNode? {tree : Tailed} {node : Option Node} (h : tree.toNode? = .ok node) :
    (tree.isInstruction = true ∧ node = none) ∨
      (tree.isInstruction = false ∧ ∃ n, node = some n ∧ n.isText = false) := by
  cases tree with
  | element name attributes text children tail =>
    obtain ⟨written, -, nodes, -, rfl⟩ := toNode?_element_eq_ok_iff.1 h
    exact .inr ⟨rfl, _, rfl, rfl⟩
  | aside kind text children tail =>
    cases kind with
    | comment => cases h; exact .inr ⟨rfl, _, rfl, rfl⟩
    | instruction => cases h; exact .inl ⟨rfl, rfl⟩

/-! ## Character data -/

mutual

/-- The texts in the node of a tree are its pieces that are not empty. -/
theorem texts_toNode? : ∀ {tree : Tailed} {node : Option Node}, tree.toNode? = .ok node →
    textsWithin node.toList = tree.pieces.filter fun piece => !piece.isEmpty
  | element .., node, h => by
    obtain ⟨written, -, nodes, hnodes, rfl⟩ := toNode?_element_eq_ok_iff.1 h
    rw [pieces, Option.toList_some, textsWithin, textsWithin, List.append_nil, Node.texts,
      textsWithin_append, textsWithin_textNodes, texts_toNodes hnodes, ← List.filter_append,
      List.singleton_append]
  | aside .comment _ _ _, _, h => by
    cases h
    rfl
  | aside .instruction _ _ _, _, h => by
    cases h
    rfl

/-- The texts in the nodes of trees side by side are their pieces that are not empty. -/
theorem texts_toNodes : ∀ {trees : List Tailed} {nodes : List Node}, toNodes trees = .ok nodes →
    textsWithin nodes = (piecesWithin trees).filter fun piece => !piece.isEmpty
  | [], _, h => by
    cases h
    rfl
  | tree :: more, nodes, h => by
    obtain ⟨node, hnode, rest, hrest, rfl⟩ := toNodes_cons_eq_ok_iff.1 h
    rw [piecesWithin, textsWithin_append, textsWithin_append, texts_toNode? hnode,
      textsWithin_textNodes, texts_toNodes hrest, List.append_assoc, ← List.filter_append,
      ← List.filter_append, List.singleton_append]

end

/-- The texts in the content of a tree are the pieces inside of it that are not empty. -/
theorem texts_content {root : Tailed} {nodes : List Node} (h : root.content = .ok nodes) :
    textsWithin nodes =
      (root.text :: piecesWithin root.children).filter fun piece => !piece.isEmpty := by
  obtain ⟨inside, hinside, rfl⟩ := map_eq_ok_iff.1 h
  rw [textsWithin_append, textsWithin_textNodes, texts_toNodes hinside, ← List.filter_append,
    List.singleton_append]

/-- Leaving out empty pieces loses no character. -/
theorem join_filter_isEmpty (pieces : List String) :
    String.join (pieces.filter fun piece => !piece.isEmpty) = String.join pieces := by
  induction pieces with
  | nil => rfl
  | cons piece more ih =>
    cases hempty : piece.isEmpty with
    | false => rw [List.filter_cons_of_pos (by simp [hempty]), String.join_cons, ih, String.join_cons]
    | true =>
      rw [List.filter_cons_of_neg (by simp [hempty]), ih, String.join_cons,
        String.isEmpty_iff.1 hempty, String.empty_append]

/-! ## Texts side by side -/

/-- Where a text stands right behind another one in the content of a tree, an instruction was
dropped between them: the second text is the tail of an instruction, what comes before it in the
tree has come out as the nodes up to the first text, and what comes behind it as the nodes behind
the second. -/
def PartedByInstructions (text : String) (children : List Tailed) (nodes : List Node) : Prop :=
  ∀ before first second after, nodes = before ++ .text first :: .text second :: after →
    ∃ left own inside right, children = left ++ aside .instruction own inside second :: right ∧
      (toNodes left).map (textNodes text ++ ·) = .ok (before ++ [.text first]) ∧
      toNodes right = .ok after

/-- The node of a text is the only one, and has its value. -/
theorem eq_of_textNodes_eq_append {s : String} {before after : List Node} {node : Node}
    (h : textNodes s = before ++ node :: after) : before = [] ∧ node = .text s ∧ after = [] := by
  unfold textNodes at h
  split at h
  · cases before <;> cases h
  · rw [eq_comm, List.append_eq_singleton_iff] at h
    simpa using h

/-- A text among the nodes of trees side by side that has another text right in front of it is the
tail of an instruction. -/
theorem exists_instruction_of_text {trees : List Tailed} {front middle after : List Node}
    {first second : String} (h : toNodes trees = .ok (middle ++ .text second :: after))
    (hfirst : (front ++ middle).getLast? = some (.text first)) :
    ∃ left own inside right, trees = left ++ aside .instruction own inside second :: right ∧
      toNodes left = .ok middle ∧ toNodes right = .ok after := by
  induction trees generalizing front middle with
  | nil => cases middle <;> cases h
  | cons tree more ih =>
    obtain ⟨node, hnode, rest, hrest, hsplit⟩ := toNodes_cons_eq_ok_iff.1 h
    -- The text comes from a later tree or from this one.
    have hcases : (∃ behind, middle = node.toList ++ textNodes tree.tail ++ behind ∧
          rest = behind ++ .text second :: after) ∨
        ∃ behind, node.toList ++ textNodes tree.tail = middle ++ .text second :: behind ∧
          after = behind ++ rest := by
      rcases List.append_eq_append_iff.1 hsplit with hlater | ⟨_ | ⟨node', behind⟩, hown, hrest'⟩
      · exact .inl hlater
      · exact .inl ⟨[], by rw [hown, List.append_nil, List.append_nil], hrest'.symm⟩
      · obtain ⟨rfl, hafter⟩ := List.cons.inj hrest'
        exact .inr ⟨behind, hown, hafter⟩
    rcases hcases with ⟨behind, rfl, rfl⟩ | ⟨behind, hown, rfl⟩
    · rw [← List.append_assoc] at hfirst
      obtain ⟨left, own, inside, right, rfl, hleft, hright⟩ := ih hrest hfirst
      exact ⟨tree :: left, own, inside, right, rfl,
        toNodes_cons_eq_ok_iff.2 ⟨node, hnode, behind, hleft, rfl⟩, hright⟩
    · rcases eq_none_or_of_toNode? hnode with ⟨hinstruction, rfl⟩ | ⟨-, n, rfl, hn⟩
      · obtain ⟨rfl, heq, rfl⟩ := eq_of_textNodes_eq_append hown
        obtain ⟨own, inside, tail, rfl⟩ := exists_eq_of_isInstruction hinstruction
        obtain rfl := Node.text.inj heq
        exact ⟨[], own, inside, more, rfl, rfl, hrest⟩
      · -- The tree has a node of its own, so that no text stands right in front of its tail.
        cases middle with
        | nil =>
          obtain ⟨rfl, -⟩ := List.cons.inj hown
          cases hn
        | cons m middle =>
          obtain ⟨rfl, htail⟩ := List.cons.inj hown
          obtain ⟨rfl, -, -⟩ := eq_of_textNodes_eq_append htail
          rw [List.getLast?_append_of_ne_nil _ (List.cons_ne_nil _ _)] at hfirst
          cases hfirst
          cases hn

/-- In the content of a tree texts stand side by side only where an instruction was dropped. -/
theorem parted_content {root : Tailed} {nodes : List Node} (h : root.content = .ok nodes) :
    PartedByInstructions root.text root.children nodes := by
  rintro before first second after rfl
  obtain ⟨inside, hinside, hnodes⟩ := map_eq_ok_iff.1 h
  have hsplit : ∃ middle, before ++ [.text first] = textNodes root.text ++ middle ∧
      inside = middle ++ .text second :: after := by
    rw [← List.singleton_append, ← List.append_assoc] at hnodes
    rcases List.append_eq_append_iff.1 hnodes with hlater | ⟨behind, hown, hrest⟩
    · exact hlater
    · rw [List.append_assoc, List.singleton_append] at hown
      obtain ⟨rfl, hfirst, rfl⟩ := eq_of_textNodes_eq_append hown
      exact ⟨[], by rw [hown, List.append_nil, List.nil_append], hrest.symm⟩
  obtain ⟨middle, hfront, rfl⟩ := hsplit
  have hfirst : (textNodes root.text ++ middle).getLast? = some (.text first) := by
    rw [← hfront, List.getLast?_concat]
  obtain ⟨left, own, inner, right, hchildren, hleft, hright⟩ :=
    exists_instruction_of_text hinside hfirst
  exact ⟨left, own, inner, right, hchildren, map_eq_ok_iff.2 ⟨middle, hleft, hfront.symm⟩, hright⟩

end Tailed

/-! ## Elements and comments -/

/-- Attributes of a tree as they are written in its node: all of them in the same order, each with
the name that its own is converted to and the same value. -/
def AreWritten (given written : List (String × String)) : Prop :=
  given.map (fun a => (attributeName a.1, a.2)) = written.map fun b => (.ok b.1, b.2)

/-- Attributes that are converted one by one. -/
theorem areWritten_of_mapM {given written : List (String × String)}
    (h : given.mapM (fun a => (attributeName a.1).map (·, a.2)) = .ok written) :
    AreWritten given written := by
  refine (map_eq_map_of_mapM_eq_ok (fun a _ b hb => ?_) h).symm
  obtain ⟨converted, hconverted, rfl⟩ := map_eq_ok_iff.1 hb
  rw [hconverted]

/-- A node stands for a tree: a comment for one with the same payload, an element for one with the
same attributes in the same order and the name that is left of its own. The elements and comments
inside of one stand for those inside of the other, one for one and in the same order, and texts
stand side by side only where an instruction was dropped. -/
inductive Node.StandsFor : Node → Tailed → Prop
  | element {name : String} {attributes : List (String × String)} {text : String}
      {children : List Tailed} {tail : String} {written : List (String × String)}
      {nodes : List Node}
      (hattributes : AreWritten attributes written)
      (hmarkup : List.Forall₂ Node.StandsFor (nodes.filter fun node => !node.isText)
        (children.filter fun tree => !tree.isInstruction))
      (hparted : Tailed.PartedByInstructions text children nodes) :
      Node.StandsFor (.element (localName name) written nodes)
        (.element name attributes text children tail)
  | comment {text : String} {children : List Tailed} {tail : String} :
      Node.StandsFor (.comment text) (.aside .comment text children tail)

namespace Tailed

mutual

/-- The node of a tree stands for it. -/
theorem standsFor_toNode? : ∀ {tree : Tailed} {node : Node}, tree.toNode? = .ok (some node) →
    node.StandsFor tree
  | element name attributes text children tail, node, h => by
    obtain ⟨written, hwritten, nodes, hnodes, heq⟩ := toNode?_element_eq_ok_iff.1 h
    obtain rfl := Option.some.inj heq
    have hcontent : (element name attributes text children tail).content =
        .ok (textNodes text ++ nodes) := map_eq_ok_iff.2 ⟨nodes, hnodes, rfl⟩
    refine .element (areWritten_of_mapM hwritten) ?_ (parted_content hcontent)
    rw [List.filter_append, filter_textNodes, List.nil_append]
    exact standsFor_toNodes hnodes
  | aside .comment _ _ _, _, h => by
    cases h
    exact .comment
  | aside .instruction _ _ _, _, h => by cases h

/-- The nodes of trees side by side without the texts stand for the trees without the
instructions. -/
theorem standsFor_toNodes : ∀ {trees : List Tailed} {nodes : List Node}, toNodes trees = .ok nodes →
    List.Forall₂ Node.StandsFor (nodes.filter fun node => !node.isText)
      (trees.filter fun tree => !tree.isInstruction)
  | [], _, h => by
    cases h
    exact .nil
  | tree :: more, _, h => by
    obtain ⟨node, hnode, rest, hrest, rfl⟩ := toNodes_cons_eq_ok_iff.1 h
    have hmore := standsFor_toNodes hrest
    rw [List.filter_append, List.filter_append, filter_textNodes, List.append_nil]
    rcases eq_none_or_of_toNode? hnode with ⟨hinstruction, rfl⟩ | ⟨hmarkup, n, rfl, hn⟩
    · rw [List.filter_cons_of_neg (by simp [hinstruction])]
      exact hmore
    · rw [List.filter_cons_of_pos (by simp [hmarkup]), Option.toList_some,
        List.filter_cons_of_pos (by simp [hn])]
      exact .cons (standsFor_toNode? hnode) hmore

end

/-! ## The whole conversion -/

/-- The content of a tree is there unless an element that is reached has an attribute whose name
opens a namespace and does not close it. It has no empty text; its texts together are the text of
the tree, the texts of the elements that are reached and the tails of all that is inside of these or
of the tree, in document order; its elements and comments stand for those of the tree; and texts
stand side by side only where an instruction was dropped. -/
theorem content_conserves (root : Tailed) :
    ((∃ fault, root.content = .error fault) ↔
      ∃ e, Reached root.children e ∧ ∃ a ∈ e.attributes, opensNamespace a.1 = true) ∧
    ∀ nodes, root.content = .ok nodes →
      (∀ value ∈ textsWithin nodes, value ≠ "") ∧
      String.join (textsWithin nodes) = String.join (root.text :: piecesWithin root.children) ∧
      List.Forall₂ Node.StandsFor (nodes.filter fun node => !node.isText)
        (root.children.filter fun tree => !tree.isInstruction) ∧
      PartedByInstructions root.text root.children nodes := by
  refine ⟨exists_content_eq_error_iff root, fun nodes h => ⟨fun value hvalue => ?_, ?_, ?_,
    parted_content h⟩⟩
  · rw [texts_content h] at hvalue
    rintro rfl
    simpa using (List.mem_filter.1 hvalue).2
  · rw [texts_content h, join_filter_isEmpty]
  · obtain ⟨inside, hinside, rfl⟩ := map_eq_ok_iff.1 h
    rw [List.filter_append, filter_textNodes, List.nil_append]
    exact standsFor_toNodes hinside

/-- Two instructions in a row are dropped, one of them with a tail, and so is all that is inside of
a comment, where a name opens a namespace: nothing fails, and the tails are still there. -/
theorem content_conserves_instructions :
    let lost := element "b" [("\x7bu", "")] "lost" [] "lost"
    let inner := element "\x7bsvg\x7dg" [("\x7bu\x7dk", "1")] ""
      [aside .comment "c" [lost] "d", aside .instruction "x" [lost] "e"] ""
    let root := element "div" [] "a"
      [aside .instruction "x" [] "", aside .instruction "y" [] "b", inner] "f"
    let nodes : List Node := [.text "a", .text "b",
      .element "g" [("k", "1")] [.comment "c", .text "d", .text "e"]]
    root.content = .ok nodes ∧ (¬ ∃ e, Reached root.children e ∧
        ∃ a ∈ e.attributes, opensNamespace a.1 = true) ∧
      (∀ value ∈ textsWithin nodes, value ≠ "") ∧ String.join (textsWithin nodes) = "abde" ∧
      List.Forall₂ Node.StandsFor [.element "g" [("k", "1")] [.comment "c", .text "d", .text "e"]]
        [inner] ∧
      PartedByInstructions "a" root.children nodes := by
  intro lost inner root nodes
  have h : root.content = .ok nodes := by decide +kernel
  obtain ⟨hfails, hkept⟩ := content_conserves root
  obtain ⟨hne, hjoin, hmarkup, hparted⟩ := hkept nodes h
  refine ⟨h, fun hreached => ?_, hne, hjoin.trans (by decide +kernel), hmarkup, hparted⟩
  obtain ⟨fault, hfault⟩ := hfails.2 hreached
  rw [h] at hfault
  cases hfault

end Tailed

end MarkupOutline
