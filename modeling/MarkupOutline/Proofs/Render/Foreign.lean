import MarkupOutline.Proofs.Render.Plain
import MarkupOutline.Proofs.Text.Quotation

/-!
# Foreign objects

A tree whose nodes are in order may have something that is no node among the children. Rendering it
fails exactly if such an object is visited, and the first one in document order is the fault
(`render_eq_error_iff_foreign`). Objects in an element that closes itself are not visited, and an
element that has nothing but foreign objects for children counts as having children.

A place in a tree is a list of positions, and document order is the lexicographic order of places.
What goes through drafts side by side either reports the first foreign object among them or has
none to report (`Reports`), and this is kept when a draft is put in front and when an element is put
around.
-/

namespace MarkupOutline

namespace Draft

/-! ## Trees with foreign objects -/

/-- Whether a draft is something other than an element, a text or a comment. -/
def isForeign : Draft → Bool
  | scalar _ | tuple _ | fragment _ => true
  | element .. | text _ | comment _ => false

/-- Whether a draft is a text that is not a node. -/
def isStr : Draft → Bool
  | scalar (.str _) => true
  | _ => false

/-- Whether a draft is a pair of texts. -/
def isAttribute : Draft → Bool
  | tuple [name, value] => name.isStr && value.isStr
  | _ => false

/-- Whether a draft is a tuple of pairs of texts. -/
def areAttributes : Draft → Bool
  | tuple items => items.all isAttribute
  | _ => false

mutual

/-- Whether the nodes of a draft have texts in their fields, pairs of texts for attributes and tuples
for children. A foreign object may be anything. -/
def isTyped : Draft → Bool
  | element tag attributes children => tag.isStr && attributes.areAttributes && children.holdsTyped
  | text value => value.isStr
  | comment data => data.isStr
  | scalar _ | tuple _ | fragment _ => true

/-- Whether a draft is a tuple of such drafts. -/
def holdsTyped : Draft → Bool
  | tuple items => areTyped items
  | _ => false

/-- Whether this holds of all drafts side by side. -/
def areTyped : List Draft → Bool
  | [] => true
  | item :: more => item.isTyped && areTyped more

end

/-- Whether the children of a fragment, or the draft itself if it is none, are typed. -/
def isTypedTree : Draft → Bool
  | fragment children => children.holdsTyped
  | other => other.isTyped

/-- A text is the draft of its characters. -/
theorem exists_eq_str {d : Draft} (h : d.isStr = true) : ∃ s, d = str s := by
  match d, h with
  | scalar (.str s), _ => exact ⟨s, rfl⟩

/-- Drafts side by side are the items of a tuple that holds them. -/
theorem exists_eq_tuple {d : Draft} (h : d.holdsTyped = true) :
    ∃ items, d = tuple items ∧ areTyped items = true := by
  match d, h with
  | tuple items, h => exact ⟨items, rfl, h⟩

/-- Pairs of texts are the drafts of attributes. -/
theorem exists_map_ofAttribute : ∀ {items : List Draft}, items.all isAttribute = true →
    ∃ attributes : List (String × String), items = attributes.map ofAttribute
  | [], _ => ⟨[], rfl⟩
  | item :: more, h => by
    rw [List.all_cons, Bool.and_eq_true] at h
    obtain ⟨attributes, rfl⟩ := exists_map_ofAttribute h.2
    match item, h.1 with
    | tuple [name, value], hpair =>
      rw [isAttribute, Bool.and_eq_true] at hpair
      obtain ⟨name, rfl⟩ := exists_eq_str hpair.1
      obtain ⟨value, rfl⟩ := exists_eq_str hpair.2
      exact ⟨(name, value) :: attributes, rfl⟩

/-- A tuple of pairs of texts holds the drafts of attributes. -/
theorem exists_eq_attributes {d : Draft} (h : d.areAttributes = true) :
    ∃ attributes : List (String × String), d = tuple (attributes.map ofAttribute) := by
  match d, h with
  | tuple items, h =>
    obtain ⟨attributes, rfl⟩ := exists_map_ofAttribute h
    exact ⟨attributes, rfl⟩

/-! ## Places of foreign objects -/

mutual

/-- `ForeignIn o d path x` says that the positions `path` lead from the draft `d` down to the foreign
object `x` without passing through an element that closes itself. -/
inductive ForeignIn (o : Options) : Draft → List Nat → Draft → Prop
  | self {x : Draft} (hx : x.isForeign = true) : ForeignIn o x [] x
  | inside {tag attributes x : Draft} {children : List Draft} {path : List Nat}
    (hopen : Layout.closesItself o tag.kind (!children.isEmpty) = false)
    (hx : ForeignAt o children path x) :
    ForeignIn o (element tag attributes (tuple children)) path x

/-- `ForeignAt o items path x` says this of drafts side by side, where the first position is that of
the draft. -/
inductive ForeignAt (o : Options) : List Draft → List Nat → Draft → Prop
  | item {items : List Draft} {i : Nat} {d x : Draft} {path : List Nat} (hd : items[i]? = some d)
    (hx : ForeignIn o d path x) : ForeignAt o items (i :: path) x

end

/-- `ForeignInTree o d path x` says this of a tree, whose places are those among the children of a
fragment, or those in the draft itself if it is none. -/
inductive ForeignInTree (o : Options) : Draft → List Nat → Draft → Prop
  | fragment {items : List Draft} {path : List Nat} {x : Draft} (hx : ForeignAt o items path x) :
    ForeignInTree o (fragment (tuple items)) path x
  | single {d x : Draft} {path : List Nat} (hd : ∀ children, d ≠ fragment children)
    (hx : ForeignIn o d path x) : ForeignInTree o d path x

/-- The first of the objects that are at places, in document order. -/
structure IsFirst (places : List Nat → Draft → Prop) (path : List Nat) (x : Draft) : Prop where
  holds : places path x
  first : ∀ path' x', places path' x' → path = path' ∨ List.Lex (· < ·) path path'

/-- Going through a part of a tree reports the first of the objects at the given places, or has a
result if there is none. -/
def Reports (places : List Nat → Draft → Prop) (r : Except RenderFault Written) : Prop :=
  (∃ path x, IsFirst places path x ∧ r = .error (.foreign x.typeName)) ∨
    ((∀ path x, ¬ places path x) ∧ ∃ s, r = .ok (some s))

variable {o : Options}

/-- There is no place where there are no drafts. -/
theorem not_foreignAt_nil (path : List Nat) (x : Draft) : ¬ ForeignAt o [] path x := by
  intro h
  cases h with
  | item hd => simp at hd

/-- A place among drafts begins with the position of one of them. -/
theorem exists_eq_cons_of_foreignAt {items : List Draft} {path : List Nat} {x : Draft}
    (h : ForeignAt o items path x) : ∃ i rest, path = i :: rest := by
  cases h with
  | item hd hx => exact ⟨_, _, rfl⟩

/-- A foreign object among drafts is in the first of them or, one position further on, among the
others. -/
theorem foreignAt_cons {d x : Draft} {more : List Draft} {path : List Nat} :
    ForeignAt o (d :: more) path x ↔
      (∃ rest, path = 0 :: rest ∧ ForeignIn o d rest x) ∨
        ∃ i rest, path = (i + 1) :: rest ∧ ForeignAt o more (i :: rest) x := by
  constructor
  · intro h
    cases h with
    | @item _ i _ _ rest hd hx =>
      cases i with
      | zero =>
        obtain rfl : d = _ := Option.some.inj hd
        exact .inl ⟨rest, rfl, hx⟩
      | succ i => exact .inr ⟨i, rest, rfl, .item hd hx⟩
  · rintro (⟨rest, rfl, hx⟩ | ⟨i, rest, rfl, hx⟩)
    · exact .item rfl hx
    · cases hx with
      | item hd hx => exact .item hd hx

/-- The foreign objects in an element are those among its children, unless it closes itself. -/
theorem foreignIn_element {tag attributes x : Draft} {children : List Draft} {path : List Nat} :
    ForeignIn o (element tag attributes (tuple children)) path x ↔
      Layout.closesItself o tag.kind (!children.isEmpty) = false ∧ ForeignAt o children path x := by
  constructor
  · intro h
    cases h with
    | self hx => cases hx
    | inside hopen hx => exact ⟨hopen, hx⟩
  · rintro ⟨hopen, hx⟩
    exact .inside hopen hx

mutual

/-- There is one object at a place in a draft. -/
theorem ForeignIn.unique {d x x' : Draft} {path : List Nat} :
    ForeignIn o d path x → ForeignIn o d path x' → x = x'
  | .self hx, h' => by
    cases h' with
    | self => rfl
    | inside => cases hx
  | .inside _ hx, h' => by
    cases h' with
    | self hx' => cases hx'
    | inside _ hx' => exact hx.unique hx'

/-- There is one object at a place among drafts. -/
theorem ForeignAt.unique {items : List Draft} {x x' : Draft} {path : List Nat} :
    ForeignAt o items path x → ForeignAt o items path x' → x = x'
  | .item hd hx, .item hd' hx' => by
    obtain rfl := Option.some.inj (hd.symm.trans hd')
    exact hx.unique hx'

end

/-- There is one object at a place in a tree. -/
theorem ForeignInTree.unique {d x x' : Draft} {path : List Nat} (h : ForeignInTree o d path x)
    (h' : ForeignInTree o d path x') : x = x' := by
  cases h with
  | fragment hx =>
    cases h' with
    | fragment hx' => exact hx.unique hx'
    | single hd _ => exact absurd rfl (hd _)
  | single hd hx =>
    cases h' with
    | fragment _ => exact absurd rfl (hd _)
    | single _ hx' => exact hx.unique hx'

/-- There is one first place. -/
theorem IsFirst.path_eq {places : List Nat → Draft → Prop} {path path' : List Nat} {x x' : Draft}
    (h : IsFirst places path x) (h' : IsFirst places path' x') : path = path' := by
  rcases h.first path' x' h'.holds with heq | hlt
  · exact heq
  · rcases h'.first path x h.holds with heq | hlt'
    · exact heq.symm
    · exact absurd hlt' (List.lt_asymm hlt)

namespace Reports

/-- A foreign object is reported. -/
theorem foreign {x : Draft} (hx : x.isForeign = true) :
    Reports (ForeignIn o x) (.error (.foreign x.typeName)) := by
  refine .inl ⟨[], x, ⟨.self hx, fun path' x' _ => ?_⟩, rfl⟩
  cases path' with
  | nil => exact .inl rfl
  | cons i rest => exact .inr .nil

/-- Where there is nothing foreign there is a result. -/
theorem of_not {places : List Nat → Draft → Prop} (h : ∀ path x, ¬ places path x)
    (s : List Char) : Reports places (.ok (some s)) :=
  .inr ⟨h, s, rfl⟩

/-- What is done with a result does not change what is reported. -/
theorem map {places : List Nat → Draft → Prop} {r : Except RenderFault Written}
    (h : Reports places r) {f : Written → Written} (hf : ∀ s, ∃ t, f (some s) = some t) :
    Reports places (r.map f) := by
  obtain ⟨path, x, hfirst, rfl⟩ | ⟨hnone, s, rfl⟩ := h
  · exact .inl ⟨path, x, hfirst, rfl⟩
  · obtain ⟨t, ht⟩ := hf s
    exact .inr ⟨hnone, t, congrArg Except.ok ht⟩

/-- Of two parts one after the other, the second reports if the first does not. -/
theorem cons {d : Draft} {more : List Draft} {r r' : Except RenderFault Written}
    (h : Reports (ForeignIn o d) r) (h' : Reports (ForeignAt o more) r') :
    Reports (ForeignAt o (d :: more))
      (do let first ← r; let rest ← r'; pure (first.append rest)) := by
  obtain ⟨path, x, hx, rfl⟩ | ⟨hnone, s, rfl⟩ := h
  · -- Every place in the first draft is in front of those among the others.
    have hplace : ForeignAt o (d :: more) (0 :: path) x :=
      foreignAt_cons.2 (.inl ⟨path, rfl, hx.holds⟩)
    refine .inl ⟨0 :: path, x, ⟨hplace, fun path' x' hx' => ?_⟩, rfl⟩
    rcases foreignAt_cons.1 hx' with ⟨rest, rfl, hin⟩ | ⟨i, rest, rfl, -⟩
    · rcases hx.first rest x' hin with rfl | hlt
      · exact .inl rfl
      · exact .inr (.cons hlt)
    · exact .inr (.rel (Nat.succ_pos i))
  obtain ⟨path, x, hx, rfl⟩ | ⟨hnone', t, rfl⟩ := h'
  · -- Moving all places on by one position keeps their order.
    obtain ⟨i, rest, rfl⟩ := exists_eq_cons_of_foreignAt hx.holds
    have hplace : ForeignAt o (d :: more) ((i + 1) :: rest) x :=
      foreignAt_cons.2 (.inr ⟨i, rest, rfl, hx.holds⟩)
    refine .inl ⟨(i + 1) :: rest, x, ⟨hplace, fun path' x' hx' => ?_⟩, rfl⟩
    rcases foreignAt_cons.1 hx' with ⟨rest', rfl, hin⟩ | ⟨i', rest', rfl, hat⟩
    · exact absurd hin (hnone rest' x')
    · rcases hx.first (i' :: rest') x' hat with heq | hlt
      · obtain ⟨rfl, rfl⟩ := List.cons.inj heq
        exact .inl rfl
      · cases hlt with
        | cons hlt => exact .inr (.cons hlt)
        | rel hlt => exact .inr (.rel (Nat.succ_lt_succ hlt))
  · refine of_not (fun path x hx => ?_) (s ++ t)
    rcases foreignAt_cons.1 hx with ⟨rest, -, hin⟩ | ⟨i, rest, -, hat⟩
    · exact hnone rest x hin
    · exact hnone' (i :: rest) x hat

/-- An element that writes its children reports what they report. -/
theorem element {tag attributes : Draft} {children : List Draft} {r : Except RenderFault Written}
    (hopen : Layout.closesItself o tag.kind (!children.isEmpty) = false)
    (h : Reports (ForeignAt o children) r) :
    Reports (ForeignIn o (Draft.element tag attributes (tuple children))) r := by
  have hplaces : ForeignIn o (Draft.element tag attributes (tuple children)) =
      ForeignAt o children := by
    funext path x
    exact propext (foreignIn_element.trans (and_iff_right hopen))
  rwa [hplaces]

end Reports

/-! ## Rendering -/

/-- A foreign object cannot be written. -/
theorem outline_of_isForeign (o : Options) (p : Place Draft) {d : Draft}
    (h : d.isForeign = true) : d.outline o p = .error (.foreign d.typeName) := by
  cases d with
  | scalar s => simp only [outline]
  | tuple items => simp only [outline]
  | fragment children => simp only [outline]
  | element tag attributes children => cases h
  | text value => cases h
  | comment data => cases h

/-- An element with texts in its fields is its open tag and, unless it closes itself, its children
and its end. -/
theorem exists_outline_element (o : Options) (p : Place Draft) (tag : String)
    (attributes : List (String × String)) (children : List Draft) :
    ∃ opening ending : List Char,
      (element (str tag) (tuple (attributes.map ofAttribute)) (tuple children)).outline o p =
        if Layout.closesItself o (str tag).kind (!children.isEmpty) then .ok (some opening)
        else (outlines o (p.enter (str tag) (str tag).isPre) children).map fun content =>
          (Written.append (some opening) content).append (some ending) := by
  let kind := (str tag).kind
  let inner := p.enter (str tag) (str tag).isPre
  let opening := Layout.openTag p.indent p.inPre tag.toList ++
    Layout.attributeList o p.indent (Layout.closesItself o kind (!children.isEmpty))
      (attributes.map fun a => Layout.attributeText o a.1.toList a.2.toList)
  let ending := (Layout.endTag o kind ((str tag).preservedBy o) (!children.isEmpty) inner.inPre).write
    p.indent tag.toList
  have hchildren : (tuple children).isTruthy = !children.isEmpty := rfl
  have hwritten : (str tag).written = some tag.toList := rfl
  refine ⟨opening, ending, ?_⟩
  rw [outline]
  simp only [attributeTexts_ofAttributes, hchildren, hwritten, mapM_some, bind, Except.bind,
    contents, Option.map_some, Written.append]
  split
  · rfl
  · cases outlines o (p.enter (str tag) (str tag).isPre) children with
    | error fault => rfl
    | ok content => rfl

mutual

/-- A typed draft reports the first foreign object in it. -/
theorem reports_outline (o : Options) : ∀ (d : Draft) (p : Place Draft), d.isTyped = true →
    Reports (ForeignIn o d) (d.outline o p)
  | element tag attributes children, p, h => by
    rw [isTyped, Bool.and_eq_true, Bool.and_eq_true] at h
    obtain ⟨⟨htag, hattributes⟩, hchildren⟩ := h
    obtain ⟨tag, rfl⟩ := exists_eq_str htag
    obtain ⟨attributes, rfl⟩ := exists_eq_attributes hattributes
    obtain ⟨items, rfl, hitems⟩ := exists_eq_tuple hchildren
    obtain ⟨opening, ending, houtline⟩ := exists_outline_element o p tag attributes items
    rw [houtline]
    split
    · next hclosed =>
      -- What is inside of an element that closes itself is at no place.
      refine Reports.of_not (fun path x hx => ?_) opening
      rw [foreignIn_element, hclosed] at hx
      exact Bool.noConfusion hx.1
    · next hopen =>
      rw [Bool.not_eq_true] at hopen
      have hcontent := reports_outlines o items (p.enter (str tag) (str tag).isPre) hitems
      exact Reports.element hopen (hcontent.map fun s => ⟨opening ++ s ++ ending, rfl⟩)
  | text value, p, h => by
    obtain ⟨value, rfl⟩ := exists_eq_str h
    refine Reports.of_not (fun path x hx => ?_) _
    cases hx with
    | self hx => cases hx
  | comment data, p, h => by
    obtain ⟨data, rfl⟩ := exists_eq_str h
    refine Reports.of_not (fun path x hx => ?_) _
    cases hx with
    | self hx => cases hx
  | scalar s, p, _ => by
    rw [outline_of_isForeign o p rfl]
    exact Reports.foreign rfl
  | tuple items, p, _ => by
    rw [outline_of_isForeign o p rfl]
    exact Reports.foreign rfl
  | fragment children, p, _ => by
    rw [outline_of_isForeign o p rfl]
    exact Reports.foreign rfl

/-- Typed drafts side by side report the first foreign object among them. -/
theorem reports_outlines (o : Options) : ∀ (items : List Draft) (p : Place Draft),
    areTyped items = true → Reports (ForeignAt o items) (outlines o p items)
  | [], p, _ => by
    rw [outlines]
    exact Reports.of_not not_foreignAt_nil []
  | item :: more, p, h => by
    rw [areTyped, Bool.and_eq_true] at h
    rw [outlines]
    exact (reports_outline o item p h.1).cons (reports_outlines o more p h.2)

end

/-- The text of a rendering, made of its parts. -/
def finish : Written → Except RenderFault String
  | some s => .ok (String.ofList (Text.trim s))
  | none => .error .unwritable

/-- A typed tree is finished after the first foreign object in it would have been reported. -/
theorem exists_reports (o : Options) {d : Draft} (h : d.isTypedTree = true) :
    ∃ r, Reports (ForeignInTree o d) r ∧ d.render o = r >>= finish := by
  by_cases hd : ∃ children, d = fragment children
  · obtain ⟨children, rfl⟩ := hd
    obtain ⟨items, rfl, hitems⟩ := exists_eq_tuple h
    have hplaces : ForeignInTree o (fragment (tuple items)) = ForeignAt o items := by
      funext path x
      refine propext ⟨fun hx => ?_, .fragment⟩
      cases hx with
      | fragment hx => exact hx
      | single hd hx => exact absurd rfl (hd _)
    refine ⟨outlines o (Place.top (str "")) items, ?_, rfl⟩
    rw [hplaces]
    exact reports_outlines o items _ hitems
  · have hd : ∀ children, d ≠ fragment children := fun children heq => hd ⟨children, heq⟩
    have hplaces : ForeignInTree o d = ForeignIn o d := by
      funext path x
      refine propext ⟨fun hx => ?_, .single hd⟩
      cases hx with
      | fragment hx => exact absurd rfl (hd _)
      | single hd hx => exact hx
    have htyped : d.isTyped = true := by rwa [isTypedTree.eq_2 d hd] at h
    have hrender : d.render o = d.outline o (Place.top (str "")) >>= finish := by
      rw [render]
      · rfl
      · exact hd
    refine ⟨d.outline o (Place.top (str "")), ?_, hrender⟩
    rw [hplaces]
    exact reports_outline o d _ htyped

/-! ## The message -/

/-- The message about a foreign object names its type. -/
theorem message?_foreign (x : Draft) :
    (RenderFault.foreign x.typeName).message? =
      some ("Cannot render object of type '" ++ x.typeName ++ "'") := by
  have hnames : ∀ name ∈ ["NoneType", "bool", "int", "float", "str", "tuple", "Fragment", "Element",
      "Text", "Comment"], name.toList.all Text.isQuotedAsItself = true := by decide
  have hname : x.typeName.toList.all Text.isQuotedAsItself = true := by
    refine hnames _ ?_
    cases x with
    | scalar s => cases s <;> simp [typeName, Scalar.typeName]
    | tuple items => simp [typeName]
    | fragment children => simp [typeName]
    | element tag attributes children => simp [typeName]
    | text value => simp [typeName]
    | comment data => simp [typeName]
  rw [RenderFault.message?, Text.quoted_of_isQuotedAsItself hname, ← String.append_assoc,
    ← String.append_assoc]
  rfl

/-- Under any options, rendering a tree whose nodes have texts in their fields, pairs of texts for
attributes and tuples for children fails exactly if there is a foreign object in it that is not
inside an element that closes itself. The fault is then the type of the first such object in
document order, and its message names the type. Otherwise there is a result; in particular a
well-formed tree is always rendered. -/
theorem render_eq_error_iff_foreign (o : Options) :
    (∀ d : Draft, d.isTypedTree = true →
      ((∃ fault, d.render o = .error fault) ↔ ∃ path x, ForeignInTree o d path x) ∧
      (∀ fault, d.render o = .error fault ↔
        ∃ path x, IsFirst (ForeignInTree o d) path x ∧ fault = .foreign x.typeName) ∧
      ((∃ s, d.render o = .ok s) ↔ ∀ path x, ¬ ForeignInTree o d path x)) ∧
    (∀ x : Draft, (RenderFault.foreign x.typeName).message? =
      some ("Cannot render object of type '" ++ x.typeName ++ "'")) ∧
    (∀ f : Fragment, ∃ s, (ofFragment f).render o = .ok s) ∧
    ∀ node : Node, ∃ s, (ofNode node).render o = .ok s := by
  refine ⟨fun d h => ?_, message?_foreign, fun f => ⟨_, render_ofFragment o f⟩,
    fun node => ⟨_, render_ofNode o node⟩⟩
  obtain ⟨r, hreports, hrender⟩ := exists_reports o h
  obtain ⟨path, x, hfirst, rfl⟩ | ⟨hnone, s, rfl⟩ := hreports
  · have herror : d.render o = .error (.foreign x.typeName) := hrender
    rw [herror]
    refine ⟨⟨fun _ => ⟨path, x, hfirst.holds⟩, fun _ => ⟨_, rfl⟩⟩, fun fault => ⟨?_, ?_⟩,
      ⟨nofun, fun hnone => absurd hfirst.holds (hnone path x)⟩⟩
    · rintro ⟨⟩
      exact ⟨path, x, hfirst, rfl⟩
    · rintro ⟨path', x', hfirst', rfl⟩
      obtain rfl := hfirst.path_eq hfirst'
      rw [hfirst.holds.unique hfirst'.holds]
  · have hok : d.render o = .ok (String.ofList (Text.trim s)) := hrender
    rw [hok]
    refine ⟨⟨nofun, ?_⟩, fun fault => ⟨nofun, ?_⟩, ⟨fun _ => hnone, fun _ => ⟨_, rfl⟩⟩⟩
    · rintro ⟨path, x, hx⟩
      exact absurd hx (hnone path x)
    · rintro ⟨path, x, hx, -⟩
      exact absurd hx.holds (hnone path x)

/-- In a graphic with a number in a shape, where it is not visited, and a fragment behind a text, the
fragment is the first foreign object. -/
theorem render_eq_error_graphic :
    let shape := element (str "path") (tuple []) (tuple [scalar (.int 1)])
    let graphic := element (str "svg") (tuple [ofAttribute ("id", "x")])
      (tuple [shape, text (str "a"), fragment (tuple []), tuple []])
    let d := fragment (tuple [comment (str "b"), graphic, scalar (.bool true)])
    d.isTypedTree = true ∧ d.render .default = .error (.foreign "Fragment") ∧
      (∃ path x, ForeignInTree .default d path x) ∧
      ∃ path x, IsFirst (ForeignInTree .default d) path x ∧
        RenderFault.foreign "Fragment" = .foreign x.typeName := by
  intro shape graphic d
  have htyped : d.isTypedTree = true := by decide
  have hrender : d.render .default = .error (.foreign "Fragment") := by decide +kernel
  obtain ⟨hfails, hfault, -⟩ := (render_eq_error_iff_foreign .default).1 d htyped
  exact ⟨htyped, hrender, hfails.1 ⟨_, hrender⟩, (hfault _).1 hrender⟩

end Draft

end MarkupOutline
