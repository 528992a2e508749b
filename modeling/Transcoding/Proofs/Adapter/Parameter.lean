import Transcoding.Adapter.Settings
import Transcoding.Proofs.Text.Blank

/-!
# Parameter texts

A parameter text is cut at its commas, and each piece acts on the settings: a piece of blanks does
nothing, an assignment sets one of the settings (`Sets`), and any other piece is wrong (`Faulty`).
The three cases are exclusive and there is no other (`piece_cases`), and they say all that a piece
does to the settings, so that what a text does follows by induction on its pieces.

Two texts with a comma between them act one after the other (`applyAll_append`). A text is refused
at its first wrong piece, and what the pieces before it have set stays (`applyAll_eq_error_iff`). A
text that is not refused leaves each of the settings at the last value that is assigned to it
(`applyAll_eq_ok_iff`), and so acting twice is acting once.
-/

namespace Transcoding

open Transcoding.Text

/-! ## Settings by name -/

/-- The settings, by name. -/
inductive Setting where
  | runtimeCrate
  | typesPath
  | outputFile
  | summaryHeader
  deriving DecidableEq

namespace Setting

/-- The key of a setting in an assignment. -/
def key : Setting → String
  | runtimeCrate => "runtime_crate"
  | typesPath => "types_path"
  | outputFile => "output_file"
  | summaryHeader => "include_summary_header"

/-- What a setting holds. -/
abbrev Value : Setting → Type
  | runtimeCrate => String
  | typesPath => Option String
  | outputFile => String
  | summaryHeader => Bool

/-- What a text means as the value of a setting. Only a truth value can be wrong, and an empty text
means that the message types have no module of their own. -/
def read? : (setting : Setting) → String → Option setting.Value
  | runtimeCrate, text => some text
  | typesPath, text => some (if text = "" then none else some text)
  | outputFile, text => some text
  | summaryHeader, text =>
    if text = "true" then some true else if text = "false" then some false else none

/-- Different settings have different keys. -/
theorem key_injective {setting setting' : Setting} (h : setting.key = setting'.key) :
    setting = setting' := by
  cases setting <;> cases setting' <;> simp_all [key]

end Setting

namespace Settings

/-- The value of a setting. -/
def get (settings : Settings) : (setting : Setting) → setting.Value
  | .runtimeCrate => settings.runtimeCrate
  | .typesPath => settings.typesPath
  | .outputFile => settings.outputFile
  | .summaryHeader => settings.summaryHeader

/-- The settings with a value for one of them. -/
def put (settings : Settings) : (setting : Setting) → setting.Value → Settings
  | .runtimeCrate, value => { settings with runtimeCrate := value }
  | .typesPath, value => { settings with typesPath := value }
  | .outputFile, value => { settings with outputFile := value }
  | .summaryHeader, value => { settings with summaryHeader := value }

@[simp] theorem get_put_self (settings : Settings) (setting : Setting) (value : setting.Value) :
    (settings.put setting value).get setting = value := by
  cases setting <;> rfl

/-- A setting that is put leaves the other settings as they are. -/
theorem get_put_of_ne (settings : Settings) {setting other : Setting} (value : setting.Value)
    (h : other ≠ setting) : (settings.put setting value).get other = settings.get other := by
  cases setting <;> cases other <;> simp_all [put, get]

/-- Settings are equal if they have the same values. -/
theorem ext_get {settings settings' : Settings}
    (h : ∀ setting, settings.get setting = settings'.get setting) : settings = settings' := by
  obtain ⟨crate, types, file, header⟩ := settings
  obtain ⟨crate', types', file', header'⟩ := settings'
  have hcrate : crate = crate' := h .runtimeCrate
  have htypes : types = types' := h .typesPath
  have hfile : file = file' := h .outputFile
  have hheader : header = header' := h .summaryHeader
  rw [hcrate, htypes, hfile, hheader]

/-- A known key sets its setting to what the text means. -/
theorem set_key (settings : Settings) (setting : Setting) (text : String) :
    settings.set setting.key text =
      match setting.read? text with
      | some value => .ok (settings.put setting value)
      | none => .error (.notTruthValue text) := by
  cases setting with
  | runtimeCrate | typesPath | outputFile => rfl
  | summaryHeader =>
    by_cases htrue : text = "true"
    · subst htrue; rfl
    · by_cases hfalse : text = "false"
      · subst hfalse; rfl
      · simp [set, Setting.key, Setting.read?, htrue, hfalse]

/-- An assignment to a key that no setting has is refused. -/
theorem set_of_unknown (settings : Settings) {key : String}
    (h : ∀ setting : Setting, setting.key ≠ key) (text : String) :
    settings.set key text = .error (.unknownKey key) := by
  have hcrate : key ≠ "runtime_crate" := (h .runtimeCrate).symm
  have htypes : key ≠ "types_path" := (h .typesPath).symm
  have hfile : key ≠ "output_file" := (h .outputFile).symm
  have hheader : key ≠ "include_summary_header" := (h .summaryHeader).symm
  simp [set, hcrate, htypes, hfile, hheader]

end Settings

/-! ## Pieces -/

/-- The piece assigns the text to the key: it has an equals sign, and the two texts stand before and
after the first one, blanks around them apart. -/
def Assigns (piece : List Char) (key text : String) : Prop :=
  ∃ left right, piece = left ++ '=' :: right ∧ '=' ∉ left ∧
    String.ofList (trimBlanks left) = key ∧ String.ofList (trimBlanks right) = text

/-- The piece sets the setting to the value. -/
def Sets (piece : List Char) (setting : Setting) (value : setting.Value) : Prop :=
  ∃ text, Assigns piece setting.key text ∧ setting.read? text = some value

/-- The piece is wrong. -/
inductive Faulty : List Char → AssignmentError → Prop
  | noEqualsSign {piece : List Char} : trimBlanks piece ≠ [] → '=' ∉ piece →
      Faulty piece (.noEqualsSign (String.ofList (trimBlanks piece)))
  | unknownKey {piece : List Char} {key text : String} : Assigns piece key text →
      (∀ setting : Setting, setting.key ≠ key) → Faulty piece (.unknownKey key)
  | notTruthValue {piece : List Char} {text : String} :
      Assigns piece Setting.summaryHeader.key text → Setting.summaryHeader.read? text = none →
      Faulty piece (.notTruthValue text)

section
variable {piece : List Char} {key text : String}

/-- A piece assigns one text to one key. -/
theorem Assigns.unique {key' text' : String} (h : Assigns piece key text)
    (h' : Assigns piece key' text') : key = key' ∧ text = text' := by
  obtain ⟨left, right, hpiece, hleft, rfl, rfl⟩ := h
  obtain ⟨left', right', hpiece', hleft', rfl, rfl⟩ := h'
  have hcut := cutAt_eq_some_iff.2 ⟨hpiece, hleft⟩
  rw [cutAt_eq_some_iff.2 ⟨hpiece', hleft'⟩] at hcut
  obtain ⟨rfl, rfl⟩ := Prod.mk.inj (Option.some.inj hcut)
  exact ⟨rfl, rfl⟩

/-- The blanks around a piece do not matter for what it assigns. -/
theorem Assigns.assign_eq (h : Assigns piece key text) (settings : Settings) :
    trimBlanks piece ≠ [] ∧ settings.assign (trimBlanks piece) = settings.set key text := by
  obtain ⟨left, right, rfl, hleft, rfl, rfl⟩ := h
  have hsign : isBlank '=' = false := by decide
  obtain ⟨left', right', htrim, hsubset, hkey, htext⟩ :=
    exists_trimBlanks_append_cons hsign left right
  have hcut := cutAt_eq_some_iff.2 ⟨htrim, fun hmem => hleft (hsubset hmem)⟩
  refine ⟨by simp [htrim], ?_⟩
  rw [Settings.assign, hcut]
  dsimp only
  rw [hkey, htext]

/-- A piece that sets a setting is not blank, and it is carried out by putting the value. -/
theorem Sets.assign_eq {setting : Setting} {value : setting.Value} (h : Sets piece setting value)
    (settings : Settings) :
    trimBlanks piece ≠ [] ∧
      settings.assign (trimBlanks piece) = .ok (settings.put setting value) := by
  obtain ⟨text, hassigns, hread⟩ := h
  obtain ⟨hne, hassign⟩ := hassigns.assign_eq settings
  rw [Settings.set_key, hread] at hassign
  exact ⟨hne, hassign⟩

/-- A faulty piece is not blank, and it is refused with its error. -/
theorem Faulty.assign_eq {error : AssignmentError} (h : Faulty piece error) (settings : Settings) :
    trimBlanks piece ≠ [] ∧ settings.assign (trimBlanks piece) = .error error := by
  cases h with
  | noEqualsSign hne hsign =>
    have hcut := cutAt_eq_none_iff.2 fun hmem => hsign (trimBlanks_subset piece hmem)
    refine ⟨hne, ?_⟩
    rw [Settings.assign, hcut]
  | unknownKey hassigns hunknown =>
    obtain ⟨hne, hassign⟩ := hassigns.assign_eq settings
    exact ⟨hne, hassign.trans (settings.set_of_unknown hunknown _)⟩
  | notTruthValue hassigns hread =>
    obtain ⟨hne, hassign⟩ := hassigns.assign_eq settings
    rw [Settings.set_key, hread] at hassign
    exact ⟨hne, hassign⟩

/-- A piece is blank, sets a setting or is wrong. -/
theorem piece_cases (piece : List Char) :
    trimBlanks piece = [] ∨ (∃ setting value, Sets piece setting value) ∨
      ∃ error, Faulty piece error := by
  by_cases hblank : trimBlanks piece = []
  · exact .inl hblank
  refine .inr ?_
  cases hcut : cutAt '=' piece with
  | none => exact .inr ⟨_, .noEqualsSign hblank (cutAt_eq_none_iff.1 hcut)⟩
  | some parts =>
    obtain ⟨left, right⟩ := parts
    obtain ⟨hpiece, hleft⟩ := cutAt_eq_some_iff.1 hcut
    have hassigns : Assigns piece _ _ := ⟨left, right, hpiece, hleft, rfl, rfl⟩
    by_cases hkey : ∃ setting : Setting, setting.key = String.ofList (trimBlanks left)
    · obtain ⟨setting, hkey⟩ := hkey
      rw [← hkey] at hassigns
      cases hread : setting.read? (String.ofList (trimBlanks right)) with
      | some value => exact .inl ⟨setting, value, _, hassigns, hread⟩
      | none =>
        cases setting with
        | runtimeCrate | typesPath | outputFile => cases hread
        | summaryHeader => exact .inr ⟨_, .notTruthValue hassigns hread⟩
    · exact .inr ⟨_, .unknownKey hassigns fun setting h => hkey ⟨setting, h⟩⟩

end

/-! ## Texts -/

/-- The settings after the pieces of a text, and what is wrong with them. -/
def Settings.applyAll (settings : Settings) (pieces : List (List Char)) :
    Settings × Option AssignmentError :=
  settings.assignAll ((pieces.map trimBlanks).filter (!·.isEmpty))

/-- The text is the last one that a piece assigns to the setting. -/
def LastAssigned (pieces : List (List Char)) (setting : Setting) (text : String) : Prop :=
  ∃ before piece after, pieces = before ++ piece :: after ∧ Assigns piece setting.key text ∧
    ∀ other ∈ after, ∀ text', ¬ Assigns other setting.key text'

/-- No piece assigns to the setting. -/
def Unassigned (pieces : List (List Char)) (setting : Setting) : Prop :=
  ∀ piece ∈ pieces, ∀ text, ¬ Assigns piece setting.key text

section
variable {settings next : Settings} {piece : List Char} {pieces : List (List Char)}
  {setting : Setting} {text : String}

/-- A blank piece is skipped. -/
theorem applyAll_cons_of_blank (h : trimBlanks piece = []) :
    settings.applyAll (piece :: pieces) = settings.applyAll pieces := by
  simp [Settings.applyAll, h]

/-- A piece that sets a setting does so, and the pieces after it are carried out. -/
theorem applyAll_cons_of_sets {value : setting.Value} (h : Sets piece setting value) :
    settings.applyAll (piece :: pieces) = (settings.put setting value).applyAll pieces := by
  obtain ⟨hne, hassign⟩ := h.assign_eq settings
  simp [Settings.applyAll, hne, Settings.assignAll, hassign]

/-- A faulty piece stops what comes after it. -/
theorem applyAll_cons_of_faulty {error : AssignmentError} (h : Faulty piece error) :
    settings.applyAll (piece :: pieces) = (settings, some error) := by
  obtain ⟨hne, hassign⟩ := h.assign_eq settings
  simp [Settings.applyAll, hne, Settings.assignAll, hassign]

/-- Pieces act one after the other, up to the first one that is wrong. -/
theorem applyAll_append (settings : Settings) (pieces pieces' : List (List Char)) :
    settings.applyAll (pieces ++ pieces') =
      match settings.applyAll pieces with
      | (next, none) => next.applyAll pieces'
      | (next, some error) => (next, some error) := by
  induction pieces generalizing settings with
  | nil => rfl
  | cons piece pieces ih =>
    rw [List.cons_append]
    obtain hblank | ⟨setting, value, hsets⟩ | ⟨error, hfaulty⟩ := piece_cases piece
    · rw [applyAll_cons_of_blank hblank, applyAll_cons_of_blank hblank, ih]
    · rw [applyAll_cons_of_sets hsets, applyAll_cons_of_sets hsets, ih]
    · rw [applyAll_cons_of_faulty hfaulty, applyAll_cons_of_faulty hfaulty]

/-- Pieces are refused at the first wrong one, with the settings that those before it leave. -/
theorem applyAll_eq_error_iff {error : AssignmentError} :
    settings.applyAll pieces = (next, some error) ↔
      ∃ before piece after, pieces = before ++ piece :: after ∧
        settings.applyAll before = (next, none) ∧ Faulty piece error := by
  constructor
  · intro h
    induction pieces generalizing settings with
    | nil => cases h
    | cons piece pieces ih =>
      obtain hblank | ⟨setting, value, hsets⟩ | ⟨fault, hfaulty⟩ := piece_cases piece
      · rw [applyAll_cons_of_blank hblank] at h
        obtain ⟨before, wrong, after, rfl, hbefore, hwrong⟩ := ih h
        exact ⟨piece :: before, wrong, after, rfl, (applyAll_cons_of_blank hblank).trans hbefore,
          hwrong⟩
      · rw [applyAll_cons_of_sets hsets] at h
        obtain ⟨before, wrong, after, rfl, hbefore, hwrong⟩ := ih h
        exact ⟨piece :: before, wrong, after, rfl, (applyAll_cons_of_sets hsets).trans hbefore,
          hwrong⟩
      · rw [applyAll_cons_of_faulty hfaulty] at h
        cases h
        exact ⟨[], piece, pieces, rfl, rfl, hfaulty⟩
  · rintro ⟨before, piece, after, rfl, hbefore, hfaulty⟩
    rw [applyAll_append, hbefore]
    exact applyAll_cons_of_faulty hfaulty

/-- Pieces are refused only if one of them is wrong, whatever the settings are. -/
theorem exists_applyAll_eq_iff (settings : Settings) (pieces : List (List Char)) :
    (∃ next, settings.applyAll pieces = (next, none)) ↔
      ∀ piece ∈ pieces, ∀ error, ¬ Faulty piece error := by
  constructor
  · rintro ⟨next, h⟩ piece hmem error hfaulty
    obtain ⟨before, after, rfl⟩ := List.append_of_mem hmem
    rw [applyAll_append] at h
    cases hbefore : settings.applyAll before with
    | mk middle fault =>
      cases fault with
      | none =>
        rw [hbefore] at h
        cases h.symm.trans (applyAll_cons_of_faulty hfaulty)
      | some fault =>
        rw [hbefore] at h
        cases h
  · intro h
    cases hresult : settings.applyAll pieces with
    | mk next fault =>
      cases fault with
      | none => exact ⟨next, rfl⟩
      | some error =>
        obtain ⟨before, piece, after, rfl, -, hfaulty⟩ := applyAll_eq_error_iff.1 hresult
        exact absurd hfaulty (h piece (by simp) error)

/-- The last assignment of several pieces is that of the later pieces, or that of the first one if
these have none. -/
theorem lastAssigned_cons_iff :
    LastAssigned (piece :: pieces) setting text ↔
      LastAssigned pieces setting text ∨
        (Assigns piece setting.key text ∧ Unassigned pieces setting) := by
  constructor
  · rintro ⟨before, last, after, hpieces, hassigns, hafter⟩
    cases before with
    | nil =>
      cases hpieces
      exact .inr ⟨hassigns, hafter⟩
    | cons first before =>
      cases hpieces
      exact .inl ⟨before, last, after, rfl, hassigns, hafter⟩
  · rintro (⟨before, last, after, rfl, hassigns, hafter⟩ | ⟨hassigns, hafter⟩)
    · exact ⟨piece :: before, last, after, rfl, hassigns, hafter⟩
    · exact ⟨[], piece, pieces, rfl, hassigns, hafter⟩

/-- The settings are left as the pieces say: each at the last value that is assigned to it, or
unchanged. -/
def Leaves (pieces : List (List Char)) (settings next : Settings) : Prop :=
  ∀ setting, (∃ text, LastAssigned pieces setting text ∧
      setting.read? text = some (next.get setting)) ∨
    (Unassigned pieces setting ∧ next.get setting = settings.get setting)

/-- Pieces that are carried out without an error leave each setting as its last assignment says. -/
theorem leaves_of_applyAll (h : settings.applyAll pieces = (next, none)) :
    Leaves pieces settings next := by
  induction pieces generalizing settings with
  | nil =>
    cases h
    exact fun setting => .inr ⟨nofun, rfl⟩
  | cons piece pieces ih =>
    intro setting
    obtain hblank | ⟨changed, value, hsets⟩ | ⟨error, hfaulty⟩ := piece_cases piece
    · rw [applyAll_cons_of_blank hblank] at h
      have hnone : ∀ key text, ¬ Assigns piece key text := fun key text hassigns =>
        (hassigns.assign_eq settings).1 hblank
      refine (ih h setting).imp ?_ ?_
      · rintro ⟨text, hlast, hread⟩
        exact ⟨text, lastAssigned_cons_iff.2 (.inl hlast), hread⟩
      · rintro ⟨hrest, hget⟩
        exact ⟨List.forall_mem_cons.2 ⟨hnone _, hrest⟩, hget⟩
    · rw [applyAll_cons_of_sets hsets] at h
      obtain ⟨text, hassigns, hread⟩ := hsets
      rcases ih h setting with ⟨later, hlast, hlater⟩ | ⟨hrest, hget⟩
      · exact .inl ⟨later, lastAssigned_cons_iff.2 (.inl hlast), hlater⟩
      · -- Nothing is assigned after this piece, so it counts if it is about the setting.
        by_cases hsame : setting = changed
        · subst hsame
          refine .inl ⟨text, lastAssigned_cons_iff.2 (.inr ⟨hassigns, hrest⟩), ?_⟩
          rw [hget, Settings.get_put_self, hread]
        · refine .inr ⟨List.forall_mem_cons.2 ⟨fun other hother => ?_, hrest⟩, ?_⟩
          · exact hsame (Setting.key_injective (hother.unique hassigns).1)
          · rw [hget, Settings.get_put_of_ne _ _ hsame]
    · rw [applyAll_cons_of_faulty hfaulty] at h
      cases h

/-- A setting with a last assignment is not unassigned. -/
theorem LastAssigned.not_unassigned (h : LastAssigned pieces setting text) :
    ¬ Unassigned pieces setting := by
  obtain ⟨before, piece, after, rfl, hassigns, -⟩ := h
  intro hnone
  exact hnone piece (by simp) text hassigns

/-- A setting has one last assignment. -/
theorem LastAssigned.unique {text' : String} (h : LastAssigned pieces setting text)
    (h' : LastAssigned pieces setting text') : text = text' := by
  induction pieces with
  | nil =>
    obtain ⟨before, piece, after, hnil, -⟩ := h
    simp at hnil
  | cons piece pieces ih =>
    rcases lastAssigned_cons_iff.1 h with hrest | ⟨hfirst, hnone⟩ <;>
      rcases lastAssigned_cons_iff.1 h' with hrest' | ⟨hfirst', hnone'⟩
    · exact ih hrest hrest'
    · exact absurd hnone' hrest.not_unassigned
    · exact absurd hnone hrest'.not_unassigned
    · exact (hfirst.unique hfirst').2

/-- The pieces say what all settings are left at. -/
theorem Leaves.unique {next' : Settings} (h : Leaves pieces settings next)
    (h' : Leaves pieces settings next') : next = next' := by
  refine Settings.ext_get fun setting => ?_
  rcases h setting with ⟨text, hlast, hread⟩ | ⟨hnone, hget⟩ <;>
    rcases h' setting with ⟨text', hlast', hread'⟩ | ⟨hnone', hget'⟩
  · rw [hlast.unique hlast', hread'] at hread
    exact (Option.some.inj hread).symm
  · exact absurd hnone' hlast.not_unassigned
  · exact absurd hnone hlast'.not_unassigned
  · rw [hget, hget']

/-- Pieces that leave the settings in a certain way leave them so when they act again. -/
theorem Leaves.again (h : Leaves pieces settings next) : Leaves pieces next next := fun setting =>
  (h setting).imp_right fun hnone => ⟨hnone.1, rfl⟩

/-- Pieces act if none of them is wrong, and leave the settings as they say. -/
theorem applyAll_eq_ok_iff :
    settings.applyAll pieces = (next, none) ↔
      (∀ piece ∈ pieces, ∀ error, ¬ Faulty piece error) ∧ Leaves pieces settings next := by
  constructor
  · intro h
    exact ⟨(exists_applyAll_eq_iff settings pieces).1 ⟨next, h⟩, leaves_of_applyAll h⟩
  · rintro ⟨hpieces, hleaves⟩
    obtain ⟨next', h⟩ := (exists_applyAll_eq_iff settings pieces).2 hpieces
    rw [h, hleaves.unique (leaves_of_applyAll h)]

end

/-! ## Parameters -/

/-- The pieces of a parameter text. -/
def parameterPieces (parameter : String) : List (List Char) := fields ',' parameter.toList

/-- A parameter is carried out piece by piece. -/
theorem Settings.apply_eq (settings : Settings) (parameter : String) :
    settings.apply parameter = settings.applyAll (parameterPieces parameter) := rfl

/-- The pieces of two parameters with a comma between them are those of both. -/
theorem parameterPieces_append (p q : String) :
    parameterPieces (p ++ "," ++ q) = parameterPieces p ++ parameterPieces q := by
  have htext : (p ++ "," ++ q).toList = p.toList ++ ',' :: q.toList := by simp
  rw [parameterPieces, htext, fields_append]
  rfl

/-- Pieces act like the text in which they stand between commas. -/
theorem Settings.apply_join (settings : Settings) {pieces : List (List Char)}
    (h : ∀ piece ∈ pieces, ',' ∉ piece) :
    settings.apply (join "," (pieces.map String.ofList)) = settings.applyAll pieces := by
  cases pieces with
  | nil => rfl
  | cons piece pieces =>
    have hpieces : parameterPieces (join "," ((piece :: pieces).map String.ofList)) =
        piece :: pieces := by
      rw [parameterPieces, join, String.toList_intercalate]
      exact fields_eq_iff.2 ⟨by simp, by simp [Function.comp_def], h⟩
    rw [apply_eq, hpieces]

/-- **Parameter texts act from left to right.** Two texts with a comma between them act like the one
and then the other, and an error of the first is the error of both. A text is refused at its first
wrong piece, with the settings that the pieces before it leave. A text without wrong pieces leaves
each setting at the value that is assigned to it last, or unchanged if there is none; acting again,
it changes nothing. -/
theorem Settings.apply_sequential (settings : Settings) (p q : String) :
    (settings.apply (p ++ "," ++ q) =
      match settings.apply p with
      | (next, none) => next.apply q
      | (next, some error) => (next, some error)) ∧
    (∀ next error, settings.apply p = (next, some error) ↔
      ∃ before piece after, parameterPieces p = before ++ piece :: after ∧
        settings.apply (join "," (before.map String.ofList)) = (next, none) ∧
        Faulty piece error) ∧
    (∀ next, settings.apply p = (next, none) ↔
      (∀ piece ∈ parameterPieces p, ∀ error, ¬ Faulty piece error) ∧
        Leaves (parameterPieces p) settings next) ∧
    ∀ next, settings.apply p = (next, none) → next.apply p = (next, none) := by
  refine ⟨?_, fun next error => ?_, fun next => applyAll_eq_ok_iff, fun next h => ?_⟩
  · rw [apply_eq, parameterPieces_append, applyAll_append]
    rfl
  · have hjoin : ∀ before piece after, parameterPieces p = before ++ piece :: after →
        settings.apply (join "," (before.map String.ofList)) = settings.applyAll before := by
      intro before piece after hpieces
      refine settings.apply_join fun part hpart => ?_
      have hmem : part ∈ parameterPieces p := by
        rw [hpieces]
        exact List.mem_append_left _ hpart
      exact not_mem_of_mem_fields part hmem
    rw [apply_eq, applyAll_eq_error_iff]
    constructor
    · rintro ⟨before, piece, after, hpieces, hbefore, hfaulty⟩
      exact ⟨before, piece, after, hpieces, (hjoin _ _ _ hpieces).trans hbefore, hfaulty⟩
    · rintro ⟨before, piece, after, hpieces, hbefore, hfaulty⟩
      exact ⟨before, piece, after, hpieces, (hjoin _ _ _ hpieces).symm.trans hbefore, hfaulty⟩
  · obtain ⟨hpieces, hleaves⟩ := applyAll_eq_ok_iff.1 h
    exact applyAll_eq_ok_iff.2 ⟨hpieces, hleaves.again⟩

/-- A second text goes on from the settings of a first one and stops at its wrong key. -/
theorem Settings.apply_sequential_colour :
    ({} : Settings).apply "output_file = api.rs, types_path=crate::pb" =
        ({ outputFile := "api.rs", typesPath := some "crate::pb" }, none) ∧
      ({ outputFile := "api.rs", typesPath := some "crate::pb" } : Settings).apply
          "output_file = api.rs, types_path=crate::pb" =
        ({ outputFile := "api.rs", typesPath := some "crate::pb" }, none) ∧
      ({} : Settings).apply ("output_file = api.rs, types_path=crate::pb" ++ "," ++
          "types_path=,colour=blue,output_file=x.rs") =
        ({ outputFile := "api.rs" }, some (.unknownKey "colour")) := by
  have hfirst : ({} : Settings).apply "output_file = api.rs, types_path=crate::pb" =
      ({ outputFile := "api.rs", typesPath := some "crate::pb" }, none) := by decide +kernel
  obtain ⟨hboth, -, -, hagain⟩ := apply_sequential {} "output_file = api.rs, types_path=crate::pb"
    "types_path=,colour=blue,output_file=x.rs"
  rw [hfirst] at hboth
  refine ⟨hfirst, hagain _ hfirst, hboth.trans ?_⟩
  decide +kernel

end Transcoding
