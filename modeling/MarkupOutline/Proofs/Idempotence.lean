import MarkupOutline.Formatting
import MarkupOutline.Proofs.Reading.Renderings

/-!
# Formatting what has been formatted

Formatting markup again changes nothing, except where the line breaks and the indentation of the
first outline become part of text that is kept as it stands. For markup whose tree is rebuilt in
place, the outlines of any number of rounds are all the same exactly if the tree is settled.
-/

namespace MarkupOutline

variable {o : Options}

/-- A text is read as markup. -/
theorem Value.toFragment_str (markup : String) :
    (Value.str markup).toFragment = (Fragment.ofMarkup markup).mapError .conversion := by
  unfold Value.toFragment
  split
  · rfl
  · next hempty =>
    have hnil : markup.isEmpty = true := by
      simpa [Value.str, Value.isTruthy, Scalar.isTruthy] using hempty
    rw [Fragment.ofMarkup, if_pos hnil]
    rfl

/-- The outline of markup is the rendering of its fragment. -/
theorem outlineOf_str (inForce : Options) (request : Request) {markup : String} {f : Fragment}
    (hmarkup : Fragment.ofMarkup markup = .ok f) :
    (outlineOf inForce request (.value (.str markup))).1 =
      .ok (f.render (request.resolve inForce).1) := by
  rw [outlineOf]
  dsimp only
  rw [Value.toFragment_str, hmarkup]
  rfl

/-- The outlines of all rounds, in terms of those behind the first. -/
theorem outlineRepeatedly_succ {inForce : Options} {request : Request} {v : Value} {first : String}
    (hfirst : (outlineOf inForce request (.value v)).1 = .ok first) (times : Nat) :
    outlineRepeatedly inForce request (times + 1) v =
      (outlineRepeatedly inForce request times (.str first)).map (first :: ·) := by
  rw [outlineRepeatedly, hfirst]
  rfl

/-- Markup that is its own outline stays the same in all rounds. -/
theorem outlineRepeatedly_of_fixed {inForce : Options} {request : Request} {markup : String}
    (hfixed : (outlineOf inForce request (.value (.str markup))).1 = .ok markup) (times : Nat) :
    outlineRepeatedly inForce request times (.str markup) = .ok (List.replicate times markup) := by
  induction times with
  | zero => rfl
  | succ times ih =>
    rw [outlineRepeatedly_succ hfixed, ih]
    rfl

/-- All rounds of formatting markup have the same outline if and only if its fragment is settled,
provided that its tree is rebuilt in place. -/
theorem outlineRepeatedly_eq_replicate_iff (inForce : Options) (request : Request) {markup : String}
    {f : Fragment} (hescape : (request.resolve inForce).1.escapeInnerText = true)
    (hmarkup : Fragment.ofMarkup markup = .ok f)
    (hplaced : f.isPlaced (request.resolve inForce).1 = true) {times : Nat} (htimes : 2 ≤ times) :
    outlineRepeatedly inForce request times (.str markup) =
        .ok (List.replicate times (f.render (request.resolve inForce).1)) ↔
      f.isSettled (request.resolve inForce).1 = true := by
  have hfirst := outlineOf_str inForce request hmarkup
  have hread := Fragment.ofMarkup_render hescape f hplaced
  have hsecond := outlineOf_str inForce request hread
  rw [← Fragment.render_reread_iff hescape f hplaced]
  obtain ⟨times, rfl⟩ := Nat.exists_eq_add_of_le' htimes
  constructor
  · intro h
    rw [outlineRepeatedly_succ hfirst, outlineRepeatedly_succ hsecond, List.replicate_succ,
      List.replicate_succ] at h
    -- The second of the outlines is that of the fragment that is read back.
    cases hmore : outlineRepeatedly inForce request times
        (.str ((f.reread (request.resolve inForce).1).render (request.resolve inForce).1)) with
    | error fault =>
      rw [hmore] at h
      cases h
    | ok more =>
      rw [hmore] at h
      have htail := (List.cons.inj (Except.ok.inj h)).2
      exact (List.cons.inj htail).1
  · intro h
    rw [h] at hsecond
    rw [outlineRepeatedly_succ hfirst, outlineRepeatedly_of_fixed hsecond]
    rfl

/-- Text that is trimmed stays the same in three rounds. -/
theorem outlineRepeatedly_division :
    outlineRepeatedly .default .current 3 (.str "<div><p>x <b>y</b></p></div>") =
      .ok (List.replicate 3
        "<div>\n  <p>\n    x\n    <b>\n      y\n    </b>\n  </p>\n</div>") := by
  have hchecks : (match Fragment.ofMarkup "<div><p>x <b>y</b></p></div>" with
      | .ok f => f.isPlaced .default && f.isSettled .default && decide (f.render .default =
          "<div>\n  <p>\n    x\n    <b>\n      y\n    </b>\n  </p>\n</div>")
      | .error _ => false) = true := by decide +kernel
  cases hmarkup : Fragment.ofMarkup "<div><p>x <b>y</b></p></div>" with
  | error fault =>
    rw [hmarkup] at hchecks
    cases hchecks
  | ok f =>
    rw [hmarkup] at hchecks
    simp only [Bool.and_eq_true, decide_eq_true_eq] at hchecks
    obtain ⟨⟨hplaced, hsettled⟩, hrender⟩ := hchecks
    rw [← hrender]
    exact (outlineRepeatedly_eq_replicate_iff .default .current rfl hmarkup hplaced
      (by decide)).2 hsettled

/-- Text in a link is kept as it stands, so the second round differs from the first. -/
theorem outlineRepeatedly_link_grows :
    ∃ first second, outlineRepeatedly .default .current 2 (.str "<a>x <b>y</b></a>") =
      .ok [first, second] ∧ second ≠ first :=
  ⟨"<a>x \n  <b>\n    y\n  </b></a>", "<a>x \n  \n  <b>\n    y\n  </b></a>",
    by decide +kernel, by decide +kernel⟩

end MarkupOutline
