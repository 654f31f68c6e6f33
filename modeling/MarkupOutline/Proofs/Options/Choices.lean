import Mathlib.Data.List.Induction
import Mathlib.Data.List.Nodup
import MarkupOutline.Options.Supplied

/-!
# What a setting is set to

Options read from keyed entries have, for each setting, what the last entry for that setting
chooses, and the default if there is no such entry or its value does not fit
(`choice_ofEntries_iff`). `Setting.Takes` says which values fit a setting and what they choose,
without regard to how they are checked.

The entries for a setting are found first and the value is checked afterwards. What carries the
proofs is that the values given for the settings are those of the last entries
(`ofEntries_eq_getLast?`), whichever way keys are spelled; the settings are then read one by one.
-/

namespace MarkupOutline

/-! ## Settings one by one -/

/-- What a setting can be set to. -/
abbrev Setting.Choice : Setting → Type
  | .emptyAttributes => Bool
  | .voidElements => VoidStyle
  | .selfClosingTag => Bool
  | .attributesPerLine => Nat
  | .escapeInnerText => Bool
  | .tagsWithWhitespacePreserved => PreservedTags

/-- What a setting is set to. -/
def Options.choice (o : Options) : (s : Setting) → s.Choice
  | .emptyAttributes => o.emptyAttributes
  | .voidElements => o.voidElements
  | .selfClosingTag => o.selfClosingTag
  | .attributesPerLine => o.attributesPerLine
  | .escapeInnerText => o.escapeInnerText
  | .tagsWithWhitespacePreserved => o.tagsWithWhitespacePreserved

/-- Options that agree on every setting are the same. -/
theorem Options.ext_choice {o p : Options} (h : ∀ s, o.choice s = p.choice s) : o = p := by
  cases o
  cases p
  simp only [Options.mk.injEq]
  exact ⟨h .emptyAttributes, h .voidElements, h .selfClosingTag, h .attributesPerLine,
    h .escapeInnerText, h .tagsWithWhitespacePreserved⟩

namespace Setting

/-- What a value chooses for a setting, if it fits. -/
def fits? : (s : Setting) → Value → Option s.Choice
  | emptyAttributes => Value.flag?
  | voidElements => Value.voidStyle?
  | selfClosingTag => Value.flag?
  | attributesPerLine => Value.count?
  | escapeInnerText => Value.flag?
  | tagsWithWhitespacePreserved => Value.preservedTags?

/-- The values that fit a setting, and what each of them chooses: a truth value for a flag, an
integer that is not negative for a count, a style or one of its words for the termination of void
elements, and a truth value or a collection of texts for the tags that keep white space. -/
def Takes : (s : Setting) → Value → s.Choice → Prop
  | emptyAttributes, v, b => v = .scalar (.bool b)
  | voidElements, v, style =>
    v = .style style ∨ v = .str style.word ∨ (v = .str "xml" ∧ style = .closingTag)
  | selfClosingTag, v, b => v = .scalar (.bool b)
  | attributesPerLine, v, n => v = .scalar (.int n)
  | escapeInnerText, v, b => v = .scalar (.bool b)
  | tagsWithWhitespacePreserved, v, .uniform b => v = .scalar (.bool b)
  | tagsWithWhitespacePreserved, v, .only tags =>
    ∃ items, (v = .list items ∨ v = .tuple items ∨ v = .set items ∨ v = .frozenSet items) ∧
      items.map Value.text? = tags.map some

/-- A choice for a setting as a value: a flag, a style and a count as what they are, and the tags
that keep white space as a truth value or as a tuple of texts. -/
def toValue : (s : Setting) → s.Choice → Value
  | emptyAttributes, b => .scalar (.bool b)
  | voidElements, style => .style style
  | selfClosingTag, b => .scalar (.bool b)
  | attributesPerLine, n => .scalar (.int n)
  | escapeInnerText, b => .scalar (.bool b)
  | tagsWithWhitespacePreserved, .uniform b => .scalar (.bool b)
  | tagsWithWhitespacePreserved, .only tags => .tuple (tags.map Value.str)

/-- A choice as a value is taken for that choice. -/
theorem takes_toValue {s : Setting} (x : s.Choice) : s.Takes (s.toValue x) x := by
  cases s with
  | voidElements => exact .inl rfl
  | tagsWithWhitespacePreserved =>
    cases x with
    | uniform b => rfl
    | only tags =>
      refine ⟨_, .inr (.inl rfl), ?_⟩
      rw [List.map_map]
      rfl
  | _ => rfl

end Setting

/-! ## Values that fit -/

/-- A flag is a truth value. -/
theorem Value.flag?_eq_some_iff {v : Value} {b : Bool} :
    v.flag? = some b ↔ v = .scalar (.bool b) := by
  cases v with
  | scalar x => cases x <;> simp [Value.flag?]
  | _ => simp [Value.flag?]

/-- A count is an integer that is not negative. -/
theorem Value.count?_eq_some_iff {v : Value} {n : Nat} :
    v.count? = some n ↔ v = .scalar (.int n) := by
  cases v with
  | scalar x =>
    cases x with
    | int i =>
      simp only [Value.count?, Option.ite_none_right_eq_some, Option.some.injEq,
        Value.scalar.injEq, Scalar.int.injEq]
      omega
    | _ => simp [Value.count?]
  | _ => simp [Value.count?]

/-- A word selects the style it stands for, and there is a second word for one of the styles. -/
theorem VoidStyle.ofWord?_eq_some_iff {word : String} {style : VoidStyle} :
    VoidStyle.ofWord? word = some style ↔
      word = style.word ∨ (word = "xml" ∧ style = .closingTag) := by
  unfold VoidStyle.ofWord?
  split
  next hxml =>
    subst hxml
    cases style <;> decide
  next hxml =>
    constructor
    · intro hfind
      have hword := List.find?_some hfind
      exact .inl (of_decide_eq_true hword).symm
    · rintro (rfl | ⟨rfl, -⟩)
      · cases style <;> decide
      · exact absurd rfl hxml

/-- A termination style is chosen by the style itself or by one of its words. -/
theorem Value.voidStyle?_eq_some_iff {v : Value} {style : VoidStyle} :
    v.voidStyle? = some style ↔
      v = .style style ∨ v = .str style.word ∨ (v = .str "xml" ∧ style = .closingTag) := by
  cases v with
  | scalar x => cases x <;> simp [Value.voidStyle?, Value.str, VoidStyle.ofWord?_eq_some_iff]
  | _ => simp [Value.voidStyle?, Value.str]

/-- Each item of a list gives a result exactly if these are the results. -/
theorem mapM_eq_some_iff {α β : Type} {f : α → Option β} {items : List α} {results : List β} :
    items.mapM f = some results ↔ items.map f = results.map some := by
  induction items generalizing results with
  | nil => cases results <;> simp
  | cons item more ih =>
    rw [List.mapM_cons]
    cases results with
    | nil => cases f item <;> cases more.mapM f <;> simp
    | cons result rest =>
      rw [List.map_cons, List.map_cons, List.cons.injEq, ← ih]
      cases f item <;> cases more.mapM f <;> simp

/-- The tags that keep white space are chosen by a truth value or by a collection of texts. -/
theorem Value.preservedTags?_eq_some_iff {v : Value} {tags : PreservedTags} :
    v.preservedTags? = some tags ↔ Setting.tagsWithWhitespacePreserved.Takes v tags := by
  cases v with
  | scalar x => cases x <;> cases tags <;> simp [Value.preservedTags?, Setting.Takes]
  | _ => cases tags <;> simp [Value.preservedTags?, Setting.Takes, mapM_eq_some_iff]

/-- A value passes the check of a setting exactly if it fits the setting. -/
theorem Setting.fits?_eq_some_iff {s : Setting} {v : Value} {x : s.Choice} :
    s.fits? v = some x ↔ s.Takes v x := by
  cases s with
  | emptyAttributes => exact Value.flag?_eq_some_iff
  | voidElements => exact Value.voidStyle?_eq_some_iff
  | selfClosingTag => exact Value.flag?_eq_some_iff
  | attributesPerLine => exact Value.count?_eq_some_iff
  | escapeInnerText => exact Value.flag?_eq_some_iff
  | tagsWithWhitespacePreserved => exact Value.preservedTags?_eq_some_iff

/-! ## Values given by entries -/

/-- Whether an entry is for a setting: its key is the name of the setting or its second spelling. -/
def Setting.isKeyOf (s : Setting) (entry : String × Value) : Bool :=
  entry.1 = s.name || entry.1 = s.camelName

/-- The value that entries give for a setting: that of the last entry for it. -/
def Setting.lastGiven (s : Setting) (entries : List (String × Value)) : Option Value :=
  (entries.filter s.isKeyOf).getLast?.map Prod.snd

/-- What a setting is set to by a value given for it, or by none: what the value chooses if it fits,
and the default otherwise. -/
inductive Setting.Settles (s : Setting) : Option Value → s.Choice → Prop
  | missing : s.Settles none (Options.default.choice s)
  | fitting {v : Value} {x : s.Choice} (h : s.Takes v x) : s.Settles (some v) x
  | unfitting {v : Value} (h : ∀ x, ¬ s.Takes v x) : s.Settles (some v) (Options.default.choice s)

/-- A setting is selected by its two keys and by no other. -/
theorem Setting.ofKey?_eq_some_iff {key : String} {s : Setting} :
    Setting.ofKey? key = some s ↔ key = s.name ∨ key = s.camelName := by
  constructor
  · intro hfind
    have hkey := List.find?_some hfind
    simp only [Bool.or_eq_true, decide_eq_true_eq] at hkey
    exact hkey.symm.imp Eq.symm Eq.symm
  · rintro (rfl | rfl)
    · exact Setting.ofKey?_name s
    · exact Setting.ofKey?_camelName s

/-- A setting is found under its name. -/
theorem Setting.ofName?_name (s : Setting) : Setting.ofName? s.name = some s := by
  cases s <;> decide

namespace Assignment

/-- One more entry replaces the value of the setting it selects. -/
theorem ofEntries_concat (select : String → Option Setting) (entries : List (String × Value))
    (key : String) (v : Value) (s : Setting) :
    ofEntries select (entries ++ [(key, v)]) s =
      if select key = some s then some v else ofEntries select entries s := by
  rw [ofEntries, List.foldl_append]
  cases hselect : select key with
  | none => simp [hselect, ofEntries]
  | some t =>
    simp only [List.foldl_cons, List.foldl_nil, hselect, assign, Option.some.injEq, ofEntries]
    exact if_congr eq_comm rfl rfl

/-- Entries give for a setting the value of the last entry that selects it. -/
theorem ofEntries_eq_getLast? (select : String → Option Setting) (entries : List (String × Value))
    (s : Setting) :
    ofEntries select entries s =
      (entries.filter fun entry => select entry.1 = some s).getLast?.map Prod.snd := by
  induction entries using List.reverseRecOn with
  | nil => rfl
  | append_singleton entries entry ih =>
    obtain ⟨key, v⟩ := entry
    rw [ofEntries_concat, ih, List.filter_append]
    by_cases hselect : select key = some s <;> simp [hselect]

/-- Entries with keys in either spelling give for a setting the value of the last entry for it. -/
theorem ofEntries_ofKey? (entries : List (String × Value)) :
    ofEntries Setting.ofKey? entries = fun s => s.lastGiven entries := by
  funext s
  have hkeys : (fun entry : String × Value => decide (Setting.ofKey? entry.1 = some s)) =
      s.isKeyOf := by
    funext entry
    rw [Setting.isKeyOf, Bool.eq_iff_iff, Bool.or_eq_true]
    simp only [decide_eq_true_eq]
    exact Setting.ofKey?_eq_some_iff
  rw [ofEntries_eq_getLast?, hkeys, Setting.lastGiven]

/-- The values given, each with the name of its setting, in the order of the settings. -/
def named (a : Assignment) : List (String × Value) :=
  Setting.all.filterMap fun s => (a s).map fun v => (s.name, v)

/-- No two values are given by the same name. -/
theorem nodup_named (a : Assignment) : (a.named.map Prod.fst).Nodup := by
  have hname (s : Setting) (key : String)
      (h : key ∈ ((a s).map fun v => (s.name, v)).map Prod.fst) : key = s.name := by
    obtain ⟨entry, hentry, rfl⟩ := Option.map_eq_some_iff.1 h
    obtain ⟨v, -, rfl⟩ := Option.map_eq_some_iff.1 hentry
    rfl
  rw [named, List.map_filterMap]
  refine List.Nodup.filterMap (fun s t key hs ht => ?_) (by decide)
  rw [← Option.some.injEq, ← Setting.ofName?_name s, ← Setting.ofName?_name t,
    ← hname s key hs, ← hname t key ht]

/-- Values given by the names of some settings are given back for these. -/
theorem ofEntries_filterMap_name (a : Assignment) (settings : List Setting) (s : Setting) :
    ofEntries Setting.ofName? (settings.filterMap fun t => (a t).map fun v => (t.name, v)) s =
      if s ∈ settings then a s else none := by
  induction settings using List.reverseRecOn with
  | nil => rfl
  | append_singleton settings t ih =>
    rw [List.filterMap_append]
    cases hgiven : a t with
    | none =>
      by_cases hs : s = t
      · subst hs
        simp [hgiven, ih]
      · simp [hgiven, ih, hs]
    | some v =>
      have hone : [t].filterMap (fun t => (a t).map fun v => (t.name, v)) = [(t.name, v)] := by
        simp [hgiven]
      rw [hone, ofEntries_concat, ih, Setting.ofName?_name]
      by_cases hs : s = t
      · subst hs
        simp [hgiven]
      · simp [hs, Ne.symm hs]

/-- Values given by name are given back. -/
theorem ofEntries_named (a : Assignment) : ofEntries Setting.ofName? a.named = a := by
  funext s
  rw [named, ofEntries_filterMap_name, if_pos s.mem_all]

/-- What is read for a setting: what its value chooses, and otherwise the default. -/
theorem fst_read {α : Type} (a : Assignment) (s : Setting) (fits? : Value → Option α)
    (fallback : α) : (a.read s fits? fallback).1 = ((a s).bind fits?).getD fallback := by
  unfold read
  cases a s with
  | none => rfl
  | some v => cases hfits : fits? v <;> simp [hfits]

/-- A setting has what its value chooses, and otherwise its default. -/
theorem choice_ofAssignment (a : Assignment) (s : Setting) :
    (Options.ofAssignment a).1.choice s =
      ((a s).bind s.fits?).getD (Options.default.choice s) := by
  cases s <;> exact fst_read _ _ _ _

end Assignment

/-- Options give for a setting what they have for it, as a value. -/
theorem Options.toAssignment_eq (o : Options) (s : Setting) :
    o.toAssignment s = some (s.toValue (o.choice s)) := by
  cases s with
  | tagsWithWhitespacePreserved =>
    unfold Options.toAssignment Options.choice
    cases o.tagsWithWhitespacePreserved <;> rfl
  | _ => rfl

/-- Options read from their own values are the same. -/
theorem Options.ofAssignment_toAssignment (o : Options) :
    (Options.ofAssignment o.toAssignment).1 = o := by
  refine Options.ext_choice fun s => ?_
  rw [Assignment.choice_ofAssignment, o.toAssignment_eq, Option.bind_some,
    Setting.fits?_eq_some_iff.2 (Setting.takes_toValue _), Option.getD_some]

/-- Values are read by name if all names are those of settings. -/
theorem Options.ofNamed_of_forall {named : List (String × Value)}
    (h : ∀ entry ∈ named, ∃ s : Setting, entry.1 = s.name) :
    ofNamed named = .ok (ofAssignment (Assignment.ofEntries Setting.ofName? named)) := by
  have hfind : (named.find? fun entry => (Setting.ofName? entry.1).isNone) = none := by
    rw [List.find?_eq_none]
    intro entry hentry
    obtain ⟨s, hs⟩ := h entry hentry
    simp [hs, Setting.ofName?_name]
  unfold ofNamed
  rw [hfind]

/-- Values given by the names of settings are read like any others. -/
theorem Options.ofNamed_named (a : Assignment) :
    Options.ofNamed a.named = .ok (Options.ofAssignment a) := by
  have hnames : ∀ entry ∈ a.named, ∃ s : Setting, entry.1 = s.name := by
    intro entry hentry
    obtain ⟨s, -, hs⟩ := List.mem_filterMap.1 hentry
    obtain ⟨v, -, rfl⟩ := Option.map_eq_some_iff.1 hs
    exact ⟨s, rfl⟩
  rw [Options.ofNamed_of_forall hnames, Assignment.ofEntries_named]

/-! ## Options from entries -/

/-- What a value for a setting, or the lack of one, settles for it. -/
theorem Setting.settles_iff {s : Setting} {given : Option Value} {x : s.Choice} :
    s.Settles given x ↔ (given.bind s.fits?).getD (Options.default.choice s) = x := by
  constructor
  · intro hsettles
    cases hsettles with
    | missing => rfl
    | fitting htakes => simp [Setting.fits?_eq_some_iff.2 htakes]
    | @unfitting v hnone =>
      have hfits : s.fits? v = none :=
        Option.eq_none_iff_forall_ne_some.2 fun x hx => hnone x (Setting.fits?_eq_some_iff.1 hx)
      simp [hfits]
  · rintro rfl
    cases given with
    | none => exact .missing
    | some v =>
      cases hfits : s.fits? v with
      | none =>
        simp only [Option.bind_some, hfits, Option.getD_none]
        exact .unfitting fun x hx => by simp [Setting.fits?_eq_some_iff.2 hx] at hfits
      | some x =>
        simp only [Option.bind_some, hfits, Option.getD_some]
        exact .fitting (Setting.fits?_eq_some_iff.1 hfits)

/-- Options from entries are those from the last values for the settings. -/
theorem Options.ofEntries_eq_ofAssignment (entries : List (String × Value)) :
    (Options.ofEntries entries).1 =
      (Options.ofAssignment fun s => s.lastGiven entries).1 := by
  rw [Options.ofEntries, Assignment.ofEntries_ofKey?]

/-- In options from entries every setting has what the last entry for it settles. Only the entries
for a setting, in their order, decide about it, whatever else is given. Giving the last values by
name comes to the same options. -/
theorem Options.choice_ofEntries_iff (entries : List (String × Value)) :
    (∀ (s : Setting) (x : s.Choice),
      (Options.ofEntries entries).1.choice s = x ↔ s.Settles (s.lastGiven entries) x) ∧
    (∀ (s : Setting) (others : List (String × Value)),
      others.filter s.isKeyOf = entries.filter s.isKeyOf →
        (Options.ofEntries others).1.choice s = (Options.ofEntries entries).1.choice s) ∧
    (Options.ofNamed (Assignment.named fun s => s.lastGiven entries)).map Prod.fst =
      .ok (Options.ofEntries entries).1 := by
  have hchoice (entries : List (String × Value)) (s : Setting) :
      (Options.ofEntries entries).1.choice s =
        ((s.lastGiven entries).bind s.fits?).getD (Options.default.choice s) := by
    rw [Options.ofEntries_eq_ofAssignment, Assignment.choice_ofAssignment]
  refine ⟨fun s x => ?_, fun s others hsame => ?_, ?_⟩
  · rw [hchoice, Setting.settles_iff]
  · rw [hchoice, hchoice, Setting.lastGiven, Setting.lastGiven, hsame]
  · rw [Options.ofNamed_named, Options.ofEntries_eq_ofAssignment]
    rfl

/-- A count that fits is overridden by a word that does not, so the default holds. An entry for
another setting that is taken out and one without a meaning that is put in change nothing. -/
theorem Options.choice_ofEntries_overridden :
    let entries : List (String × Value) := [("attributesPerLine", .scalar (.int 3)),
      ("selfClosingTag", .scalar (.bool true)), ("attributes_per_line", .str "lots")]
    let others : List (String × Value) := [("formatter", .str "diffable"),
      ("attributesPerLine", .scalar (.int 3)), ("attributes_per_line", .str "lots")]
    (Options.ofEntries entries).1.choice .attributesPerLine = (1 : Nat) ∧
      others.filter Setting.attributesPerLine.isKeyOf =
        entries.filter Setting.attributesPerLine.isKeyOf ∧
      (Options.ofEntries others).1.choice .attributesPerLine =
        (Options.ofEntries entries).1.choice .attributesPerLine ∧
      (Options.ofNamed [("self_closing_tag", .scalar (.bool true)),
          ("attributes_per_line", .str "lots")]).map Prod.fst =
        .ok (Options.ofEntries entries).1 := by
  intro entries others
  obtain ⟨hsettles, hsame, hnamed⟩ := Options.choice_ofEntries_iff entries
  have hunfit (n : Nat) : ¬ Setting.attributesPerLine.Takes (.str "lots") n := nofun
  have hfilter : others.filter Setting.attributesPerLine.isKeyOf =
      entries.filter Setting.attributesPerLine.isKeyOf := by
    simp [entries, others, Setting.isKeyOf, Setting.name, Setting.camelName]
  exact ⟨(hsettles .attributesPerLine 1).2 (.unfitting hunfit), hfilter,
    hsame .attributesPerLine others hfilter, hnamed⟩

end MarkupOutline
