import MarkupOutline.Proofs.Options.Notices
import MarkupOutline.Proofs.Scope.Standing

/-!
# Options that are resolved

Whatever is given for the settings, each of them ends up with a value of the right kind: a truth
value, a style, a count, or a truth value or texts (`Options.resolves_ofAssignment`). This holds of
every way in which options come about. A run puts no others in force, so it holds of the options in
force at any time (`Action.resolvesIn_performAll`). The checks let each such value pass as it is
(`Options.toAssignment_ofAssignment_of_admits`), so giving all of them back, under either spelling
and in any order, changes nothing and is not reported on: if every setting has one entry, the values
given do not depend on the order of the entries (`Assignment.ofEntries_of_perm`).
-/

namespace MarkupOutline

/-! ## Values of settings -/

/-- The values that a setting has once it is resolved. -/
def Setting.Admits : Setting → Value → Prop
  | voidElements, v => ∃ style : VoidStyle, v = .style style
  | attributesPerLine, v => ∃ n : Int, 0 ≤ n ∧ v = .scalar (.int n)
  | tagsWithWhitespacePreserved, v =>
    (∃ b : Bool, v = .scalar (.bool b)) ∨ ∃ tags : List String, v = .tuple (tags.map Value.str)
  | _, v => ∃ b : Bool, v = .scalar (.bool b)

/-- The values that a setting admits are its choices. -/
theorem Setting.admits_iff {s : Setting} {v : Value} : s.Admits v ↔ ∃ x, s.toValue x = v := by
  cases s with
  | attributesPerLine =>
    constructor
    · rintro ⟨n, hn, rfl⟩
      exact ⟨n.toNat, by rw [toValue, Int.toNat_of_nonneg hn]⟩
    · rintro ⟨n, rfl⟩
      exact ⟨_, Int.natCast_nonneg n, rfl⟩
  | tagsWithWhitespacePreserved =>
    constructor
    · rintro (⟨b, rfl⟩ | ⟨tags, rfl⟩)
      · exact ⟨.uniform b, rfl⟩
      · exact ⟨.only tags, rfl⟩
    · rintro ⟨b | tags, rfl⟩
      · exact .inl ⟨b, rfl⟩
      · exact .inr ⟨tags, rfl⟩
  | _ => exact exists_congr fun _ => eq_comm

namespace Options

/-- Options have some values as those of their settings. -/
def HasFields (o : Options) (fields : Setting → Value) : Prop :=
  o.toAssignment = fun s => some (fields s)

/-- Options are what comes of the values given for the settings: every setting has a value that it
admits, which is the choice that is settled for it by the value given or by the lack of one. -/
def Resolves (o : Options) (given : Assignment) : Prop :=
  ∃ fields, o.HasFields fields ∧ ∀ s : Setting, s.Admits (fields s) ∧
    ∃ x, s.Settles (given s) x ∧ fields s = s.toValue x

/-- Whatever is given is resolved. -/
theorem resolves_ofAssignment (given : Assignment) : (ofAssignment given).1.Resolves given := by
  refine ⟨fun s => s.toValue ((ofAssignment given).1.choice s), funext (toAssignment_eq _),
    fun s => ⟨Setting.admits_iff.2 ⟨_, rfl⟩, _, ?_, rfl⟩⟩
  exact Setting.settles_iff.2 (Assignment.choice_ofAssignment given s).symm

/-- Entries are resolved, the last one for each setting. -/
theorem resolves_ofEntries (entries : List (String × Value)) :
    (ofEntries entries).1.Resolves fun s => s.lastGiven entries := by
  rw [ofEntries_eq]
  exact resolves_ofAssignment _

/-- Without any values the defaults are what is resolved. -/
theorem resolves_default : default.Resolves Assignment.empty := resolves_ofAssignment .empty

/-- Values that the settings admit are those of some options. -/
theorem exists_hasFields {fields : Setting → Value} (h : ∀ s : Setting, s.Admits (fields s)) :
    ∃ o : Options, o.HasFields fields := by
  choose x hx using fun s => Setting.admits_iff.1 (h s)
  refine ⟨⟨x .emptyAttributes, x .voidElements, x .selfClosingTag, x .attributesPerLine,
    x .escapeInnerText, x .tagsWithWhitespacePreserved⟩, funext fun s => ?_⟩
  rw [toAssignment_eq, ← hx s]
  cases s <;> rfl

/-- A value that a setting admits is taken as it is, whatever is given for the others, and is not
reported on. -/
theorem toAssignment_ofAssignment_of_admits (a : Assignment) {s : Setting} {v : Value}
    (hgiven : a s = some v) (h : s.Admits v) :
    (ofAssignment a).1.toAssignment s = some v ∧ s.report? (a s) = none := by
  obtain ⟨x, rfl⟩ := Setting.admits_iff.1 h
  have htakes : s.Takes (s.toValue x) x := Setting.takes_toValue x
  constructor
  · rw [toAssignment_eq, Assignment.choice_ofAssignment, hgiven, Option.bind_some,
      Setting.fits?_eq_some_iff.2 htakes, Option.getD_some]
  · rw [hgiven, Setting.report?, Option.bind_some, if_pos ⟨x, htakes⟩]

/-- Options read from their own values are the same, and nothing is reported. -/
theorem ofAssignment_of_hasFields {o : Options} {fields : Setting → Value}
    (h : o.HasFields fields) : ofAssignment (fun s => some (fields s)) = (o, []) := by
  refine Prod.ext (by rw [← h, o.ofAssignment_toAssignment]) ?_
  rw [snd_ofAssignment, List.filterMap_eq_nil_iff]
  intro s _
  have hvalue : s.toValue (o.choice s) = fields s := by
    rw [← Option.some_inj, ← o.toAssignment_eq, h]
  have hadmits : s.Admits (fields s) := Setting.admits_iff.2 ⟨_, hvalue⟩
  exact (toAssignment_ofAssignment_of_admits (fun s => some (fields s)) rfl hadmits).2

end Options

/-- If every setting has one entry, that entry gives its value, wherever it stands. -/
theorem Assignment.ofEntries_of_perm {select : String → Option Setting} {key : Setting → String}
    (hkey : ∀ s, select (key s) = some s) {fields : Setting → Value}
    {entries : List (String × Value)}
    (h : entries.Perm (Setting.all.map fun s => (key s, fields s))) :
    ofEntries select entries = fun s => some (fields s) := by
  funext s
  have hone : (Setting.all.map fun s => (key s, fields s)).filter
      (fun entry => select entry.1 = some s) = [(key s, fields s)] := by
    rw [List.filter_map]
    have hcount : Setting.all.count s = 1 := by cases s <;> decide
    simp [Function.comp_def, hkey, List.filter_eq, hcount]
  have hfilter := h.filter fun entry => decide (select entry.1 = some s)
  rw [hone, List.perm_singleton] at hfilter
  rw [ofEntries_eq_getLast?, hfilter]
  rfl

/-- Options read from entries with their own values, one for each setting, are the same, and nothing
is reported. -/
theorem Options.ofEntries_of_perm {o : Options} {fields : Setting → Value} (h : o.HasFields fields)
    {key : Setting → String} (hkey : ∀ s, Setting.ofKey? (key s) = some s)
    {entries : List (String × Value)}
    (hperm : entries.Perm (Setting.all.map fun s => (key s, fields s))) :
    ofEntries entries = (o, []) := by
  have hlast : (fun s : Setting => s.lastGiven entries) = fun s => some (fields s) := by
    rw [← Assignment.ofEntries_ofKey?, Assignment.ofEntries_of_perm hkey hperm]
  have hknown : (entries.filter fun entry => !Setting.all.any (·.isKeyOf entry)) = [] := by
    rw [List.filter_eq_nil_iff]
    intro entry hentry
    obtain ⟨s, -, rfl⟩ := List.mem_map.1 (hperm.subset hentry)
    rw [Setting.any_isKeyOf, hkey, Option.isSome_some]
    decide
  rw [ofEntries_eq, hlast, ofAssignment_of_hasFields h, hknown]
  rfl

/-! ## The ways in which options come about -/

/-- The values that a value gives for the settings: those of its entries, if it has any. -/
def Value.assigned : Value → Assignment
  | mapping es => fun s => s.lastGiven es
  | _ => .empty

/-- Any value but the absent one is read for what it gives for the settings. -/
theorem Request.resolves_ofValue (inForce : Options) {v : Value} (h : v ≠ .null) :
    ((ofValue v).resolve inForce).1.Resolves v.assigned := by
  cases v with
  | mapping es => exact Options.resolves_ofEntries es
  | scalar v =>
    cases v with
    | null => exact absurd rfl h
    | _ => exact Options.resolves_default
  | _ => exact Options.resolves_default

/-- The values for the settings that options are supplied by. -/
def Supplied.given : Supplied → Assignment
  | absent => .empty
  | entries es => fun s => s.lastGiven (Entries.ofList es)
  | named values => .ofEntries Setting.ofName? (Entries.ofList values)
  | value v => v.assigned

/-- Options that values by name amount to are resolved. -/
theorem Options.resolves_of_ofNamed {named : List (String × Value)} {result : Options × List Notice}
    (h : ofNamed named = .ok result) :
    result.1.Resolves (Assignment.ofEntries Setting.ofName? named) := by
  unfold ofNamed at h
  split at h
  · cases h
  · rw [← Except.ok.inj h]
    exact resolves_ofAssignment _

/-- Options that are put in force by supplying them are resolved. -/
theorem Supplied.resolves_of_options {supplied : Supplied} {result : Options × List Notice}
    (h : supplied.options = .ok result) : result.1.Resolves supplied.given := by
  cases supplied with
  | named values => exact Options.resolves_of_ofNamed h
  | absent =>
    rw [← Except.ok.inj h]
    exact Options.resolves_default
  | entries es =>
    rw [← Except.ok.inj h]
    exact Options.resolves_ofEntries _
  | value v =>
    rw [← Except.ok.inj h]
    by_cases hnull : v = .null
    · subst hnull
      exact Options.resolves_default
    · exact Request.resolves_ofValue _ hnull

/-- Options come of no values, or of those that a step of a run is supplied with. -/
def Options.ResolvesIn (o : Options) (actions : List Action) : Prop :=
  o.Resolves .empty ∨ ∃ step ∈ Action.allSteps actions, ∃ supplied,
    step.supplied? = some supplied ∧ o.Resolves supplied.given

/-- After a run, and after each step of it, the options in force come of no values or of those that
a step was supplied with. -/
theorem Action.resolvesIn_performAll (actions : List Action) :
    (performAll {} actions).2.All (·.ResolvesIn actions) ∧
      ∀ row : Row, row.In (performAll {} actions).1 → row.2.ResolvesIn actions := by
  have hdefault : Options.default.ResolvesIn actions := .inl Options.resolves_default
  refine Scope.All.performAll hdefault actions ⟨hdefault, nofun, nofun⟩ ?_
  intro step hstep supplied o hsupplied hsettled
  unfold Supplied.settled at hsettled
  split at hsettled
  · cases hsettled
  · next heq =>
    rw [← Except.ok.inj hsettled]
    exact .inr ⟨step, hstep, supplied, hsupplied, Supplied.resolves_of_options heq⟩

/-- Options are resolved whichever way they come about. Values given by the names of settings are
always read, and so are entries and other values; every setting then has the choice that is settled
for it, as a value that it admits. The options in force during a run and after it, in any of its
scopes, are resolved likewise, from nothing or from what a step is supplied with. Values that all
settings admit are those of some options; and given back by name, or as entries with keys in either
spelling, in any order, the values of options come to the same options, without a notice. -/
theorem Options.resolved_and_accepted :
    (∀ named : List (String × Value), (∀ entry ∈ named, ∃ s : Setting, entry.1 = s.name) →
      ∃ o notices, ofNamed named = .ok (o, notices) ∧
        o.Resolves (Assignment.ofEntries Setting.ofName? named)) ∧
    (∀ entries, (ofEntries entries).1.Resolves fun s => s.lastGiven entries) ∧
    (∀ inForce o, ((Request.ofValue .null).resolve inForce).1 = inForce ∧
      ((Request.options o).resolve inForce).1 = o) ∧
    (∀ inForce v, v ≠ .null → ((Request.ofValue v).resolve inForce).1.Resolves v.assigned) ∧
    (∀ actions, (Action.performAll {} actions).2.All (·.ResolvesIn actions) ∧
      ∀ row : Row, row.In (Action.performAll {} actions).1 → row.2.ResolvesIn actions) ∧
    (∀ fields : Setting → Value, (∀ s : Setting, s.Admits (fields s)) →
      ∃ o : Options, o.HasFields fields) ∧
    ∀ (o : Options) (fields : Setting → Value), o.HasFields fields →
      (∀ named : List (String × Value),
        named.Perm (Setting.all.map fun s => (s.name, fields s)) →
          ofNamed named = .ok (o, [])) ∧
      ∀ key : Setting → String, (∀ s, key s = s.name ∨ key s = s.camelName) →
        ∀ entries : List (String × Value),
          entries.Perm (Setting.all.map fun s => (key s, fields s)) →
            ofEntries entries = (o, []) ∧
            ∀ inForce, (Request.ofValue (.mapping entries)).resolve inForce = (o, []) := by
  refine ⟨fun named hnamed => ⟨_, _, ofNamed_of_forall hnamed, resolves_ofAssignment _⟩,
    resolves_ofEntries, fun _ _ => ⟨rfl, rfl⟩, fun inForce _ h =>
      Request.resolves_ofValue inForce h,
    Action.resolvesIn_performAll, fun fields h => exists_hasFields h,
    fun o fields h => ⟨fun named hperm => ?_, fun key hkey entries hperm => ?_⟩⟩
  · have hnames : ∀ entry ∈ named, ∃ s : Setting, entry.1 = s.name := by
      intro entry hentry
      obtain ⟨s, -, rfl⟩ := List.mem_map.1 (hperm.subset hentry)
      exact ⟨s, rfl⟩
    rw [ofNamed_of_forall hnames, Assignment.ofEntries_of_perm Setting.ofName?_name hperm,
      ofAssignment_of_hasFields h]
  · have hselect (s : Setting) : Setting.ofKey? (key s) = some s :=
      Setting.ofKey?_eq_some_iff.2 (hkey s)
    have hentries := ofEntries_of_perm h hselect hperm
    exact ⟨hentries, fun _ => hentries⟩

/-- The values of some options, given back from the last setting to the first: by name, and as
entries one of which has its key in the other spelling. A style by a wrong name and a list are
resolved too. -/
theorem Options.resolved_and_accepted_reversed :
    let o : Options := ⟨false, .closingTag, true, 0, true, .only ["pre"]⟩
    (∃ other notices, ofNamed [("void_elements", .scalar (.str "html4"))] = .ok (other, notices) ∧
      other.Resolves (Assignment.ofEntries Setting.ofName?
        [("void_elements", .scalar (.str "html4"))])) ∧
    ((Request.ofValue (.list [])).resolve o).1.Resolves .empty ∧
    (∃ other : Options, other.HasFields fun s => s.toValue (o.choice s)) ∧
    ofNamed [("tags_with_whitespace_preserved", .tuple [.str "pre"]),
      ("escape_inner_text", .scalar (.bool true)), ("attributes_per_line", .scalar (.int 0)),
      ("self_closing_tag", .scalar (.bool true)), ("void_elements", .style .closingTag),
      ("empty_attributes", .scalar (.bool false))] = .ok (o, []) ∧
    ofEntries [("tagsWithWhitespacePreserved", .tuple [.str "pre"]),
      ("escape_inner_text", .scalar (.bool true)), ("attributesPerLine", .scalar (.int 0)),
      ("selfClosingTag", .scalar (.bool true)), ("voidElements", .style .closingTag),
      ("emptyAttributes", .scalar (.bool false))] = (o, []) := by
  intro o
  obtain ⟨hnamed, -, -, hvalue, -, hexists, haccepted⟩ := Options.resolved_and_accepted
  have hadmits (s : Setting) : s.Admits (s.toValue (o.choice s)) := Setting.admits_iff.2 ⟨_, rfl⟩
  have hback := haccepted o (fun s => s.toValue (o.choice s)) (funext o.toAssignment_eq)
  have hkey (s : Setting) : (if s = .escapeInnerText then s.name else s.camelName) = s.name ∨
      (if s = .escapeInnerText then s.name else s.camelName) = s.camelName := by
    split
    · exact .inl rfl
    · exact .inr rfl
  refine ⟨hnamed _ (List.forall_mem_singleton.2 ⟨.voidElements, rfl⟩), hvalue o (.list []) nofun,
    hexists _ hadmits, hback.1 _ ?_, (hback.2 _ hkey _ ?_).1⟩
  · exact List.reverse_perm (Setting.all.map fun s => (s.name, s.toValue (o.choice s)))
  · exact List.reverse_perm (Setting.all.map fun s =>
      (if s = .escapeInnerText then s.name else s.camelName, s.toValue (o.choice s)))

end MarkupOutline
