import MarkupOutline.Draft.WellFormed
import MarkupOutline.Formatting
import MarkupOutline.Proofs.Construction.Sources
import MarkupOutline.Proofs.Options.Choices
import MarkupOutline.Proofs.Text.Quotation

/-!
# What is reported

Notices come from the options that are asked for and from the caller's own formatter. Entries that
options are read from are reported on in two runs: first every key that no setting has, in the order
of the entries, then every setting whose last value does not fit it, in the order of the settings
(`snd_ofEntries`). Each notice says what it is about: the key, the value and its setting, or the
type of a value that no options can be read from. The formatter reports exactly this, provided that
there is a tree to be rendered (`outlineOf_eq`), so all that is left to say is which formatter is
chosen.
-/

namespace MarkupOutline

/-! ## Wording -/

/-- The name of a setting is quoted as it stands. -/
theorem Setting.quoted_name (s : Setting) : Text.quoted s.name = "'" ++ s.name ++ "'" := by
  have hnames : ∀ t ∈ Setting.all, t.name.toList.all Text.isQuotedAsItself = true := by decide
  exact Text.quoted_of_isQuotedAsItself (hnames s s.mem_all)

/-- The report on a value that does not fit writes out the value and names its setting. -/
theorem invalidSetting_eq (s : Setting) (v : Value) :
    invalidSetting s v = ⟨.debug, "diffable_html.config",
      "Invalid value " ++ v.literal ++ " for formatting option '" ++ s.name ++
        "', using default"⟩ := by
  have hchannel : optionsChannel = "diffable_html.config" := by decide
  rw [invalidSetting, hchannel, s.quoted_name]
  simp only [String.append_assoc]
  rfl

/-- The report on a key that no setting has quotes the key. -/
theorem unknownSetting_eq (key : String) :
    unknownSetting key = ⟨.debug, "diffable_html.config",
      "Ignoring unknown formatting option " ++ Text.quoted key⟩ := by
  have hchannel : optionsChannel = "diffable_html.config" := by decide
  rw [unknownSetting, hchannel]

/-- The reports on two keys are the same only if the keys are. -/
theorem unknownSetting_injective : Function.Injective unknownSetting := by
  intro a b h
  rw [unknownSetting_eq, unknownSetting_eq] at h
  have hmessage := String.toList_inj.2 (Notice.mk.inj h).2.2
  rw [String.toList_append, String.toList_append] at hmessage
  exact Text.quoted_injective (String.toList_inj.1 (List.append_cancel_left hmessage))

/-- The report on a value that no options can be read from names its type. -/
theorem ignoredOptions_eq (v : Value) :
    ignoredOptions v = ⟨.debug, "diffable_html.config",
      "Ignoring formatting configuration of type " ++ v.typeName⟩ := by
  have hchannel : optionsChannel = "diffable_html.config" := by decide
  rw [ignoredOptions, hchannel]

/-! ## Settings -/

/-- Whether a value fits a setting can be found out. -/
instance (s : Setting) (v : Value) : Decidable (∃ x, s.Takes v x) :=
  decidable_of_iff ((s.fits? v).isSome = true) <| by
    simp only [Option.isSome_iff_exists, Setting.fits?_eq_some_iff]

/-- The report on a setting: on the value given for it, if that does not fit. -/
def Setting.report? (s : Setting) (given : Option Value) : Option Notice :=
  given.bind fun v => if ∃ x, s.Takes v x then none else some (invalidSetting s v)

/-- The notices about a setting are its report. -/
theorem Assignment.snd_read (a : Assignment) (s : Setting) (fallback : s.Choice) :
    (a.read s s.fits? fallback).2 = (s.report? (a s)).toList := by
  unfold read Setting.report?
  cases a s with
  | none => rfl
  | some v =>
    dsimp only [Option.bind_some]
    cases hfits : s.fits? v with
    | none =>
      have hnone : ¬ ∃ x, s.Takes v x := by
        rintro ⟨x, hx⟩
        rw [Setting.fits?_eq_some_iff.2 hx] at hfits
        cases hfits
      rw [if_neg hnone, Option.toList_some]
    | some x => rw [if_pos ⟨x, Setting.fits?_eq_some_iff.1 hfits⟩, Option.toList_none]

/-- A key selects a setting exactly if some setting has it. -/
theorem Setting.any_isKeyOf (entry : String × Value) :
    Setting.all.any (·.isKeyOf entry) = (Setting.ofKey? entry.1).isSome := by
  rw [Bool.eq_iff_iff, List.any_eq_true, Option.isSome_iff_exists]
  refine exists_congr fun s => ?_
  rw [Setting.ofKey?_eq_some_iff, isKeyOf, Bool.or_eq_true, decide_eq_true_iff, decide_eq_true_iff]
  exact and_iff_right s.mem_all

namespace Options

/-- The notices about values are the reports on the settings. -/
theorem snd_ofAssignment (a : Assignment) :
    (ofAssignment a).2 = Setting.all.filterMap fun s => s.report? (a s) := by
  rw [List.filterMap_eq_flatMap_toList]
  simp only [← a.snd_read _ (Options.default.choice _), Setting.all, List.flatMap_cons,
    List.flatMap_nil, List.append_nil, ← List.append_assoc]
  rfl

/-- Options are read from the last values for the settings, after a notice for each key that no
setting has. -/
theorem ofEntries_eq (entries : List (String × Value)) :
    ofEntries entries =
      ((ofAssignment fun s => s.lastGiven entries).1,
        (entries.filter fun entry => !Setting.all.any (·.isKeyOf entry)).map
          (fun entry => unknownSetting entry.1) ++
        (ofAssignment fun s => s.lastGiven entries).2) := by
  rw [ofEntries, Assignment.ofEntries_ofKey?, ← List.filterMap_eq_map, List.filterMap_filter]
  refine Prod.ext rfl (congrArg (· ++ _) (List.filterMap_congr fun entry _ => ?_))
  obtain ⟨key, v⟩ := entry
  rw [Setting.any_isKeyOf]
  dsimp only
  cases Setting.ofKey? key <;> rfl

/-- Entries are reported on key by key, as far as no setting has them, and then setting by
setting. -/
theorem snd_ofEntries (entries : List (String × Value)) :
    (ofEntries entries).2 =
      (entries.filter fun entry => !Setting.all.any (·.isKeyOf entry)).map
        (fun entry => unknownSetting entry.1) ++
      Setting.all.filterMap fun s => s.report? (s.lastGiven entries) := by
  rw [ofEntries_eq]
  dsimp only
  rw [snd_ofAssignment]

end Options

/-- Every notice about options that are asked for is for debugging, on the channel of options. -/
theorem Request.level_of_mem_resolve {inForce : Options} {request : Request} {notice : Notice}
    (h : notice ∈ (request.resolve inForce).2) :
    notice.level = .debug ∧ notice.channel = optionsChannel := by
  cases request with
  | current => cases h
  | options o => cases h
  | other v =>
    rw [List.mem_singleton.1 h]
    exact ⟨rfl, rfl⟩
  | entries es =>
    rw [resolve, Options.snd_ofEntries] at h
    rcases List.mem_append.1 h with h | h
    · obtain ⟨entry, -, rfl⟩ := List.mem_map.1 h
      exact ⟨rfl, rfl⟩
    · obtain ⟨s, -, hs⟩ := List.mem_filterMap.1 h
      obtain ⟨v, -, hv⟩ := Option.bind_eq_some_iff.1 hs
      split at hv
      · cases hv
      · cases hv
        exact ⟨rfl, rfl⟩

/-! ## The formatter -/

/-- The tree that the formatter renders: a fragment that it is given as it is, and otherwise the one
that is read from markup. -/
def Source.tree : Source → Except Fault Draft
  | .draft (.fragment children) => .ok (.fragment children)
  | .draft _ => .error .notMarkup
  | .value v => v.toFragment.map Draft.ofFragment

/-- The formatter looks at what is asked for once it has a tree, and then reports on that, whether
or not the tree can be rendered. -/
theorem outlineOf_eq (inForce : Options) (request : Request) (source : Source) :
    outlineOf inForce request source =
      match source.tree with
      | .error fault => (.error fault, [])
      | .ok d => ((d.render (request.resolve inForce).1).mapError .render,
          (request.resolve inForce).2) := by
  cases source with
  | draft d => cases d <;> rfl
  | value v =>
    rw [outlineOf, Source.tree]
    cases v.toFragment with
    | error fault => rfl
    | ok f =>
      dsimp only [Except.map]
      rw [Draft.render_ofFragment]
      rfl

/-! ## The choice of a formatter -/

/-- What is given and reported for each choice of a formatter. The caller's own is applied, whatever
options are asked for; a text is taken over, and anything else is reported once and leaves the thing
as it is. The library's gives the outline, and reports on what is asked for if there is a tree, also
if the tree cannot be rendered. Any other choice leaves the thing as it is. About what is asked for
nothing is reported if it is options already; entries are reported on key by key and then setting by
setting; and any other value gives one notice. A notice quotes the key, so that no two keys are
reported on alike, or writes out the value and names its setting, or names the type of the value.
Nothing else would be reported but dropped instructions, and markup has none. -/
theorem format_reports {α : Type} [Formattable α] (inForce : Options) (request : Request) (x : α) :
    (∀ apply : α → Except Fault α,
      (∀ inForce' request', format inForce' request' (.custom apply) x =
        format inForce request (.custom apply) x) ∧
      (∀ fault, apply x = .error fault →
        format inForce request (.custom apply) x = (.error fault, [])) ∧
      (∀ result, apply x = .ok result → (Formattable.source result).text? ≠ none →
        format inForce request (.custom apply) x = (.ok result, [])) ∧
      ∀ result, apply x = .ok result → (Formattable.source result).text? = none →
        format inForce request (.custom apply) x = (.ok x, [⟨.warning, "diffable_html.formatter",
          "Your custom markup formatter must return a string."⟩])) ∧
    (∀ choice : Value, choice.text? = some "diffable" →
      (∀ fault, (Formattable.source x).tree = .error fault →
        outlineOf inForce request (Formattable.source x) = (.error fault, [])) ∧
      (∀ d, (Formattable.source x).tree = .ok d →
        outlineOf inForce request (Formattable.source x) =
          ((d.render (request.resolve inForce).1).mapError .render,
            (request.resolve inForce).2)) ∧
      format inForce request (.chosen choice) x =
        ((outlineOf inForce request (Formattable.source x)).1.map Formattable.ofText,
          (outlineOf inForce request (Formattable.source x)).2)) ∧
    (∀ choice : Value, choice.text? ≠ some "diffable" →
      format inForce request (.chosen choice) x = (.ok x, [])) ∧
    (Request.ofValue .null = .current ∧ (Request.current.resolve inForce).2 = []) ∧
    (∀ o, ((Request.options o).resolve inForce).2 = []) ∧
    (∀ es, Request.ofValue (.mapping es) = .entries es ∧
      ((Request.entries es).resolve inForce).2 =
        (es.filter fun entry => !Setting.all.any (·.isKeyOf entry)).map
          (fun entry => unknownSetting entry.1) ++
        Setting.all.filterMap fun s => s.report? (s.lastGiven es)) ∧
    (∀ v, v ≠ .null → (∀ es, v ≠ .mapping es) →
      ((Request.ofValue v).resolve inForce).2 = [ignoredOptions v]) ∧
    (∀ key, unknownSetting key = ⟨.debug, "diffable_html.config",
      "Ignoring unknown formatting option " ++ Text.quoted key⟩) ∧
    Function.Injective unknownSetting ∧
    (∀ s v, invalidSetting s v = ⟨.debug, "diffable_html.config",
      "Invalid value " ++ v.literal ++ " for formatting option '" ++ s.name ++
        "', using default"⟩) ∧
    (∀ v, ignoredOptions v = ⟨.debug, "diffable_html.config",
      "Ignoring formatting configuration of type " ++ v.typeName⟩) ∧
    (∀ notice ∈ (request.resolve inForce).2,
      notice.level = .debug ∧ notice.channel = "diffable_html.config") ∧
    ∀ markup, Tailed.droppedWithin (Html.parseTree markup).children = 0 := by
  have hchannel : channelName "formatter" = "diffable_html.formatter" ∧
      optionsChannel = "diffable_html.config" := by decide
  refine ⟨fun apply => ⟨fun _ _ => rfl, fun fault h => ?_, fun result h htext => ?_,
      fun result h htext => ?_⟩,
    fun choice h => ⟨fun fault htree => ?_, fun d htree => ?_, ?_⟩, fun choice h => ?_,
    ⟨rfl, rfl⟩, fun _ => rfl, fun es => ⟨rfl, Options.snd_ofEntries es⟩, fun v hnull hmapping => ?_,
    unknownSetting_eq, unknownSetting_injective, invalidSetting_eq, ignoredOptions_eq,
    fun notice hmem => hchannel.2 ▸ Request.level_of_mem_resolve hmem, droppedWithin_parseTree⟩
  · rw [format, h]
  · rw [format, h]
    exact if_pos (Option.isSome_iff_ne_none.2 htext)
  · rw [format, h, ← hchannel.1]
    dsimp only
    rw [htext]
    rfl
  · rw [outlineOf_eq, htree]
  · rw [outlineOf_eq, htree]
  · exact if_pos h
  · exact if_neg h
  · cases v with
    | scalar v => cases v <;> first | exact absurd rfl hnull | rfl
    | mapping es => exact absurd rfl (hmapping es)
    | _ => rfl

/-- A tree that cannot be rendered, with two keys that no setting has between values for two
settings: both keys are reported, and of the values the one that counts for each setting, before the
rendering fails. A list of pairs in place of the entries is reported by its type. -/
theorem format_reports_failing :
    let es : List (String × Value) := [("attributesPerLine", .scalar (.int (-1))),
      ("indent", .scalar (.int 2)), ("emptyAttributes", .list [.str "id", .null]),
      ("voidElements", .str "xml"), ("it's", .null), ("attributes_per_line", .str "many")]
    format .default (.entries es) (.chosen (.str "diffable"))
        (Source.draft (.fragment (.tuple [.scalar (.int 1)]))) =
      (.error (.render (.foreign "int")),
        [⟨.debug, "diffable_html.config", "Ignoring unknown formatting option 'indent'"⟩,
         ⟨.debug, "diffable_html.config", "Ignoring unknown formatting option \"it's\""⟩,
         ⟨.debug, "diffable_html.config",
           "Invalid value ['id', None] for formatting option 'empty_attributes', using default"⟩,
         ⟨.debug, "diffable_html.config",
           "Invalid value 'many' for formatting option 'attributes_per_line', using default"⟩]) ∧
    ((Request.ofValue (.list [.tuple [.str "indent", .scalar (.int 2)]])).resolve .default).2 =
      [⟨.debug, "diffable_html.config", "Ignoring formatting configuration of type list"⟩] := by
  intro es
  obtain ⟨-, hchosen, -, -, -, hentries, hother, hunknown, -, hinvalid, hignored, -⟩ :=
    format_reports .default (.entries es) (Source.draft (.fragment (.tuple [.scalar (.int 1)])))
  obtain ⟨-, houtline, hformat⟩ := hchosen (.str "diffable") rfl
  have hrender : (Draft.fragment (.tuple [.scalar (.int 1)])).render
      ((Request.entries es).resolve .default).1 = .error (.foreign "int") := by decide +kernel
  have hreports : (es.filter fun entry => !Setting.all.any (·.isKeyOf entry)).map
        (fun entry => unknownSetting entry.1) ++
      Setting.all.filterMap (fun s => s.report? (s.lastGiven es)) =
      [unknownSetting "indent", unknownSetting "it's",
        invalidSetting .emptyAttributes (.list [.str "id", .null]),
        invalidSetting .attributesPerLine (.str "many")] := rfl
  constructor
  · rw [hformat, houtline _ rfl, hrender, (hentries es).2, hreports, hunknown, hunknown, hinvalid,
      hinvalid]
    exact Prod.ext rfl (by decide +kernel)
  · rw [hother (.list [.tuple [.str "indent", .scalar (.int 2)]]) (by rintro ⟨⟩) nofun, hignored]
    decide +kernel

end MarkupOutline
