import Mathlib.Data.List.DropRight
import Mathlib.Data.List.TakeDrop
import Mathlib.Data.List.TakeWhile
import MarkupOutline.Tailed.Conversion

/-!
# When a conversion fails

Names of attributes are converted in document order, and the conversion of a tree fails at the first
of them that opens a namespace and does not close it. Without such a name it has a result. This is
said once for any computation that goes through a list of names (`FailsAtFirst`) and is kept when
two such computations follow each other.
-/

namespace MarkupOutline

/-- A name begins with an opening brace and has no closing brace. -/
def opensNamespace (name : String) : Bool :=
  name.toList.head? == some '\x7b' && !name.toList.contains '\x7d'

/-! ## Computations over names -/

section

variable {α β : Type} {names more : List String}

/-- A computation has no result exactly if one of the names opens a namespace; the first such name
is the fault. -/
def FailsAtFirst (names : List String) (r : Except ConversionFault α) : Prop :=
  match names.find? opensNamespace with
  | some name => r = .error (.openNamespace name)
  | none => ∃ a, r = .ok a

/-- A computation has a result if no name opens a namespace. -/
theorem FailsAtFirst.exists_ok {r : Except ConversionFault α} (h : FailsAtFirst names r)
    (hnone : names.find? opensNamespace = none) : ∃ a, r = .ok a := by
  rwa [FailsAtFirst, hnone] at h

/-- The first name that opens a namespace is the fault. -/
theorem FailsAtFirst.eq_error {r : Except ConversionFault α} (h : FailsAtFirst names r)
    {name : String} (hfound : names.find? opensNamespace = some name) :
    r = .error (.openNamespace name) := by
  rwa [FailsAtFirst, hfound] at h

/-- A computation that looks at no name has a result. -/
theorem failsAtFirst_pure (a : α) : FailsAtFirst [] (pure a : Except ConversionFault α) :=
  ⟨a, rfl⟩

/-- What is computed from a result fails where the result fails. -/
theorem FailsAtFirst.map {r : Except ConversionFault α} (h : FailsAtFirst names r) (f : α → β) :
    FailsAtFirst names (r.map f) := by
  unfold FailsAtFirst at *
  split at h
  · rw [h]
    rfl
  · obtain ⟨a, rfl⟩ := h
    exact ⟨f a, rfl⟩

/-- Of two computations one after the other the second fails if the first does not. -/
theorem FailsAtFirst.bind {r : Except ConversionFault α} {f : α → Except ConversionFault β}
    (h : FailsAtFirst names r) (hf : ∀ a, FailsAtFirst more (f a)) :
    FailsAtFirst (names ++ more) (r >>= f) := by
  unfold FailsAtFirst at h
  split at h
  · next name hname =>
    rw [h, FailsAtFirst, List.find?_append, hname]
    rfl
  · next hnone =>
    obtain ⟨a, rfl⟩ := h
    have hrest := hf a
    rw [FailsAtFirst, List.find?_append, hnone, Option.none_or]
    exact hrest

/-- A computation that does the same with every name and something else in a list. -/
theorem FailsAtFirst.mapM {f : α → Except ConversionFault β} (name : α → String)
    (h : ∀ a, FailsAtFirst [name a] (f a)) (as : List α) :
    FailsAtFirst (as.map name) (as.mapM f) := by
  induction as with
  | nil => exact failsAtFirst_pure []
  | cons a rest ih =>
    rw [List.mapM_cons]
    exact (h a).bind fun b => ih.map (b :: ·)

end

/-! ## Trees -/

/-- A text has no two parts around a closing brace exactly if it has no closing brace. -/
theorem splitAtBrace_eq_none_iff (s : List Char) : splitAtBrace s = none ↔ '\x7d' ∉ s := by
  have hnil : s.dropWhile (fun c => decide (c ≠ '\x7d')) = [] ↔ '\x7d' ∉ s := by
    rw [List.dropWhile_eq_nil_iff]
    simp only [decide_eq_true_eq]
    exact ⟨fun h hmem => h _ hmem rfl, fun h c hc heq => h (heq ▸ hc)⟩
  rw [← hnil, splitAtBrace, List.span_eq_takeWhile_dropWhile]
  cases s.dropWhile fun c => decide (c ≠ '\x7d') with
  | nil => exact ⟨fun _ => rfl, fun _ => rfl⟩
  | cons c behind => exact ⟨nofun, nofun⟩

/-- The two parts of a text around its first closing brace. -/
theorem splitAtBrace_eq_some_iff {s before behind : List Char} :
    splitAtBrace s = some (before, behind) ↔ s = before ++ '\x7d' :: behind ∧ '\x7d' ∉ before := by
  rw [splitAtBrace, List.span_eq_takeWhile_dropWhile]
  constructor
  · intro h
    have hsplit := List.takeWhile_append_dropWhile (p := fun c => decide (c ≠ '\x7d')) (l := s)
    split at h
    · cases h
    · next c rest heq =>
      obtain ⟨rfl, hrest⟩ := Prod.mk.inj heq
      cases h
      have hbrace : c = '\x7d' := by
        have hhead := List.head?_dropWhile_not (p := fun c => decide (c ≠ '\x7d')) (l := s)
        rw [hrest] at hhead
        simpa using hhead
      rw [hrest, hbrace] at hsplit
      exact ⟨hsplit.symm, fun hmem => by simpa using List.mem_takeWhile_imp hmem⟩
  · rintro ⟨rfl, hbefore⟩
    have hp : ∀ c ∈ before, decide (c ≠ '\x7d') = true :=
      fun c hc => decide_eq_true fun heq => hbefore (heq ▸ hc)
    rw [List.takeWhile_append_of_pos hp, List.dropWhile_append_of_pos hp]
    simp

/-- A name that opens a namespace is not converted. -/
theorem attributeName_of_opensNamespace {name : String} (h : opensNamespace name = true) :
    attributeName name = .error (.openNamespace name) := by
  rw [opensNamespace, Bool.and_eq_true, beq_iff_eq] at h
  obtain ⟨rest, hname⟩ := List.head?_eq_some_iff.1 h.1
  have hopen : splitAtBrace rest = none := by
    rw [splitAtBrace_eq_none_iff]
    intro hmem
    simp [hname, hmem] at h
  unfold attributeName
  rw [hname]
  simp only [hopen]

/-- Any other name is converted. -/
theorem exists_attributeName {name : String} (h : opensNamespace name = false) :
    ∃ converted, attributeName name = .ok converted := by
  unfold attributeName
  split
  · next rest hname =>
    split
    · next hopen =>
      rw [splitAtBrace_eq_none_iff] at hopen
      simp [opensNamespace, hname, hopen] at h
    · dsimp only
      split
      · exact ⟨_, rfl⟩
      · split
        · exact ⟨_, rfl⟩
        · exact ⟨_, rfl⟩
  · exact ⟨name, rfl⟩

/-- The conversion of a single name. -/
theorem failsAtFirst_attributeName (name : String) : FailsAtFirst [name] (attributeName name) := by
  rw [FailsAtFirst, List.find?_singleton]
  cases h : opensNamespace name with
  | true => exact attributeName_of_opensNamespace h
  | false => exact exists_attributeName h

namespace Tailed

mutual

/-- The names of the attributes in a tree, in document order. -/
def attributeNames : Tailed → List String
  | element _ attributes _ children _ => attributes.map Prod.fst ++ namesWithin children
  | aside .. => []

/-- The names of the attributes in trees side by side, in document order. -/
def namesWithin : List Tailed → List String
  | [] => []
  | tree :: more => tree.attributeNames ++ namesWithin more

end

mutual

/-- A tree is converted unless one of its names opens a namespace. -/
theorem failsAtFirst_toNode? : (tree : Tailed) → FailsAtFirst tree.attributeNames tree.toNode?
  | element name attributes text children tail => by
    have hattributes : FailsAtFirst (attributes.map Prod.fst)
        (attributes.mapM fun (name, value) => (attributeName name).map (·, value)) :=
      FailsAtFirst.mapM Prod.fst (fun a => (failsAtFirst_attributeName a.1).map (·, a.2)) attributes
    have hchildren := failsAtFirst_toNodes children
    rw [attributeNames, toNode?]
    exact hattributes.bind fun written => hchildren.map fun nodes =>
      some (Node.element (localName name) written (textNodes text ++ nodes))
  | aside .comment _ _ _ => by
    rw [attributeNames, toNode?]
    exact failsAtFirst_pure _
  | aside .instruction _ _ _ => by
    rw [attributeNames, toNode?]
    exact failsAtFirst_pure _

/-- Trees side by side are converted unless one of their names opens a namespace. -/
theorem failsAtFirst_toNodes :
    (trees : List Tailed) → FailsAtFirst (namesWithin trees) (toNodes trees)
  | [] => by
    rw [namesWithin, toNodes]
    exact failsAtFirst_pure []
  | tree :: more => by
    rw [namesWithin, toNodes]
    exact (failsAtFirst_toNode? tree).bind fun node => (failsAtFirst_toNodes more).map fun rest =>
      node.toList ++ textNodes tree.tail ++ rest

end

/-- The content of a tree is converted unless one of the names inside opens a namespace. The
attributes of the tree itself are not looked at. -/
theorem failsAtFirst_content (tree : Tailed) :
    FailsAtFirst (namesWithin tree.children) tree.content :=
  (failsAtFirst_toNodes tree.children).map (textNodes tree.text ++ ·)

end Tailed

end MarkupOutline
