import MarkupOutline.Proofs.Reading.Trimming

/-!
# Fragments that are read back

A fragment is read back from a rendering that has been trimmed. It is rendered as its nodes are
written once their edges are trimmed, without the line feed in front, so whether it has the same
rendering when it is read back is decided by these nodes: if and only if the fragment is settled
(`Fragment.render_reread_iff`).
-/

namespace MarkupOutline

open Text Html

/-- A fragment as it is read back from its rendering. -/
def Fragment.reread (o : Options) (f : Fragment) : Fragment :=
  ⟨rereads o Place.topLevel true [] [] (trimEdges f.children)⟩

/-- Whether a fragment is settled. -/
def Fragment.isSettled (o : Options) (f : Fragment) : Bool :=
  areSettled o Place.topLevel false f.children
variable {o : Options}

/-- What is rendered of a fragment in place, in terms of its nodes with their edges trimmed. -/
theorem Fragment.toList_render_of_isPlaced (hescape : o.escapeInnerText = true) (f : Fragment)
    (hf : f.isPlaced o = true) :
    (f.render o).toList = afterFeed true (outlines o Place.topLevel (trimEdges f.children)) := by
  have hvoid := voidsChildless_of_arePlaced ["html"] _ (arePlaced_trimEdges hescape hf)
  calc (f.render o).toList = trim (outlines o Place.topLevel f.children) := String.toList_ofList
    _ = trim (outlines o Place.topLevel (trimEdges f.children)) :=
      (trim_outlines_trimEdges hescape hf).symm
    _ = afterFeed true (outlines o Place.topLevel (trimEdges f.children)) :=
      (isEdged_trimEdges hescape hf).trim_outlines hescape hvoid

/-- A fragment in place has the same rendering when it is read back if and only if it is settled. -/
theorem Fragment.render_reread_iff (hescape : o.escapeInnerText = true) (f : Fragment)
    (hf : f.isPlaced o = true) : (f.reread o).render o = f.render o ↔ f.isSettled o = true := by
  have hchildren : arePlaced o ["html"] f.children = true := hf
  have hplaced := arePlaced_trimEdges hescape hchildren
  have hedged := isEdged_trimEdges hescape hchildren
  have hvoid := voidsChildless_of_arePlaced ["html"] _ hplaced
  have hvoid' := voidsChildless_rereads (o := o) Place.topLevel _ hvoid true [] []
  have hrender : (f.reread o).render o = f.render o ↔
      outlines o Place.topLevel (MarkupOutline.rereads o Place.topLevel true [] []
        (trimEdges f.children)) = outlines o Place.topLevel (trimEdges f.children) := by
    rw [Fragment.render, Fragment.render, String.ofList_inj,
      ← trim_outlines_trimEdges hescape hchildren]
    exact ⟨(hedged.rereads hplaced).trim_outlines_inj hedged hescape hvoid' hvoid
      (hedged.headText_rereads hplaced).1, congrArg trim⟩
  have hiff := outlines_reread_iff hescape Place.isNested_topLevel ["html"] _ hplaced true []
    (.inl rfl) [] rfl (fun _ => rfl) [] [] (.inl rfl) (.inl rfl)
  rw [writtenText_nil, escape_nil, List.nil_append, List.append_nil, List.append_nil,
    hedged.areSettled_eq hplaced, areSettled_trimEdges hescape hf, settles_nil] at hiff
  rw [hrender]
  simpa [Fragment.isSettled] using hiff

end MarkupOutline
