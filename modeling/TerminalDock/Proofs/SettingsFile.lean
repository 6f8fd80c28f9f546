import TerminalDock.Proofs.ConfigFile
import TerminalDock.Proofs.Drags
import TerminalDock.Proofs.TypedNumbers
import TerminalDock.Window.Basic

/-! What the settings of a file are, what becomes of them and of the file when one of them is set, and of a remembered height
when the application starts. Settings are loaded whatever their values are; only the panel asks whether the height is one. -/

namespace TerminalDock

namespace Json

/-- Whole numbers; a truth value counts as one. -/
def isWhole : Json → Bool
  | .int _ | .bool _ => true
  | _ => false

def isText : Json → Bool
  | .str _ | .units _ => true
  | _ => false

private theorem plain_of_isWhole {value : Json} (whole : value.isWhole = true) (told : value.Told) : value.Plain := by
  cases value with
  | int => exact .int told.short
  | bool => exact .bool _
  | null | float | str | units | arr | obj => cases whole

private theorem plain_of_isText {value : Json} (textual : value.isText = true) (told : value.Told) : value.Plain := by
  cases value with
  | str text => exact .str text
  | units => exact told.units
  | null | bool | int | float | arr | obj => cases textual

/-- What whole numbers and texts hold. -/
inductive Held
  | whole (value : Int)
  | text (text : String)
  | units (codes : List Nat)
  deriving DecidableEq

/-- Unlike values, which may be numbers with a fraction, what they hold can be compared. -/
def held? : Json → Option Held
  | .int value => some (.whole value)
  | .str text => some (.text text)
  | .units codes => some (.units codes)
  | _ => none

private theorem eq_of_held? {value other : Json} (held : value.held? = other.held?)
    (holds : other.held?.isSome = true) : value = other := by
  cases other with
  | int | str | units =>
    cases value <;>
      cases held
    rfl
  | null | bool | float | arr | obj => cases holds

end Json

namespace PanelSettings

variable {file : Config.File} {settings : PanelSettings} {key : String} {value : Json}

@[simp] theorem set_panelHeight (settings : PanelSettings) (key : String) (value : Json) :
    (settings.set key value).panelHeight = if key = "panel_height" then value else settings.panelHeight := by
  simp only [set, beq_iff_eq]
  split
  · rfl
  · split <;> rfl

@[simp] theorem set_colorScheme (settings : PanelSettings) (key : String) (value : Json) :
    (settings.set key value).colorScheme = if key = "color_scheme" then value else settings.colorScheme := by
  simp only [set, beq_iff_eq]
  split
  next first =>
    subst first
    rfl
  next => split <;> rfl

private theorem ext_settings {other : PanelSettings} (height : settings.panelHeight = other.panelHeight)
    (scheme : settings.colorScheme = other.colorScheme) : settings = other := by
  cases settings
  cases other
  cases height
  cases scheme
  rfl

private theorem isKnown_iff : isKnown key = true ↔ key = "panel_height" ∨ key = "color_scheme" := by
  rw [isKnown, Bool.or_eq_true, beq_iff_eq, beq_iff_eq]

private theorem fields_set (known : isKnown key = true) (value : Json) :
    (settings.set key value).fields = Assoc.put key value settings.fields := by
  obtain rfl | rfl := isKnown_iff.mp known <;> rfl

private theorem set_set (key : String) (value other : Json) :
    (settings.set key value).set key other = settings.set key other := by
  apply ext_settings
  · simp only [set_panelHeight]
    split <;> rfl
  · simp only [set_colorScheme]
    split <;> rfl

private theorem set_comm {name : String} (apart : key ≠ name) (value other : Json) :
    (settings.set key value).set name other = (settings.set name other).set key value := by
  apply ext_settings
  · simp only [set_panelHeight]
    split
    next here => rw [if_neg (here ▸ apart)]
    next => rfl
  · simp only [set_colorScheme]
    split
    next here => rw [if_neg (here ▸ apart)]
    next => rfl

def named (fields : List (String × Json)) : PanelSettings where
  panelHeight := (Assoc.find? "panel_height" fields).getD (.int 300)
  colorScheme := (Assoc.find? "color_scheme" fields).getD (.str "dark")

private theorem getD_find?_cons {name : String} {fields : List (String × Json)} (absent : name ∉ fields.map Prod.fst)
    (old : Json) :
    (Assoc.find? key ((name, value) :: fields)).getD old =
      (Assoc.find? key fields).getD (if name = key then value else old) := by
  rw [Assoc.find?_cons]
  split
  next same =>
    subst same
    rw [Assoc.find?_eq_none.mpr absent]
    rfl
  next => rfl

private theorem foldl_set {fields : List (String × Json)} (unique : (fields.map Prod.fst).Nodup) (settings : PanelSettings) :
    fields.foldl (fun settings (key, value) => settings.set key value) settings =
      ⟨(Assoc.find? "panel_height" fields).getD settings.panelHeight,
        (Assoc.find? "color_scheme" fields).getD settings.colorScheme⟩ := by
  induction fields generalizing settings with
  | nil => rfl
  | cons field fields ih =>
    obtain ⟨name, value⟩ := field
    obtain ⟨absent, unique⟩ := List.nodup_cons.mp unique
    rw [List.foldl_cons, ih unique, set_panelHeight, set_colorScheme, getD_find?_cons absent, getD_find?_cons absent]

private theorem ofFields_named {fields : List (String × Json)} (unique : (fields.map Prod.fst).Nodup) :
    ofFields fields = named fields :=
  foldl_set unique {}

private theorem load_object {bytes : List UInt8} {fields : List (String × Json)} (holds : Config.Holds bytes (.obj fields)) :
    load (some bytes) = .ok (named fields) := by
  rw [load, Config.readJson_ok_iff.mpr holds]
  obtain ⟨text, -, document⟩ := holds
  exact congrArg Except.ok (ofFields_named (Json.Told.document document).object.1)

private theorem load_other {bytes : List UInt8} (holds : Config.Holds bytes value) (other : ∀ fields, value ≠ .obj fields) :
    load (some bytes) = .error (.notAnObject value.kindName) := by
  rw [load, Config.readJson_ok_iff.mpr holds]
  cases value with
  | obj fields => exact absurd rfl (other fields)
  | null | bool | int | float | str | units | arr => rfl

private theorem load_nothing (nothing : ∀ bytes value, file = some bytes → ¬Config.Holds bytes value) :
    load file = .ok {} := by
  cases file with
  | none => rfl
  | some bytes =>
    rw [load]
    cases read : Config.readJson bytes with
    | error fault => rfl
    | ok value => exact absurd (Config.readJson_ok_iff.mp read) (nothing bytes value rfl)

/-- What the settings of a file are, whatever it holds: those that its object names; the defaults, if there is no file or
its contents stand for no value. There are none exactly if the contents stand for a value that is no object. -/
theorem load_exact (file : Config.File) :
    (∀ bytes fields, file = some bytes → Config.Holds bytes (.obj fields) → load file = .ok (named fields)) ∧
    ((∀ bytes value, file = some bytes → ¬Config.Holds bytes value) → load file = .ok {}) ∧
    ∀ error, load file = .error error ↔ ∃ bytes value, file = some bytes ∧ Config.Holds bytes value ∧
      (∀ fields, value ≠ .obj fields) ∧ error = .notAnObject value.kindName := by
  refine ⟨?_, load_nothing, fun error => ⟨fun failed => ?_, ?_⟩⟩
  · rintro bytes fields rfl holds
    exact load_object holds
  · by_cases something : ∃ bytes value, file = some bytes ∧ Config.Holds bytes value
    · obtain ⟨bytes, value, rfl, holds⟩ := something
      have other (fields : List (String × Json)) : value ≠ .obj fields := by
        rintro rfl
        rw [load_object holds] at failed
        cases failed
      rw [load_other holds other] at failed
      cases failed
      exact ⟨bytes, value, rfl, holds, other, rfl⟩
    · rw [load_nothing fun bytes value there holds => something ⟨bytes, value, there, holds⟩] at failed
      cases failed
  · rintro ⟨bytes, value, rfl, holds, other, rfl⟩
    exact load_other holds other

/-- An empty array is read as a value, but names no settings. -/
theorem load_exact_fails : ¬∀ file, ∃ settings, load file = .ok settings := by
  intro loads
  obtain ⟨settings, loaded⟩ := loads (some [0x5B, 0x5D])
  have failed : load (some [0x5B, 0x5D]) = .error (.notAnObject "list") := rfl
  rw [failed] at loaded
  cases loaded

/-- Whether whole numbers and texts are what is loaded from a file is found out by computing. -/
theorem load_of_held {height scheme : Json}
    (held : (load file).toOption.map (fun settings => (settings.panelHeight.held?, settings.colorScheme.held?)) =
      some (height.held?, scheme.held?)) (first : height.held?.isSome = true) (second : scheme.held?.isSome = true) :
    load file = .ok ⟨height, scheme⟩ := by
  cases loaded : load file with
  | error fault =>
    rw [loaded] at held
    cases held
  | ok settings =>
    rw [loaded] at held
    obtain ⟨sameHeight, sameScheme⟩ := Prod.mk.inj (Option.some.inj held)
    exact congrArg Except.ok (ext_settings (Json.eq_of_held? sameHeight first) (Json.eq_of_held? sameScheme second))

/-- Settings that every text of theirs tells. -/
structure Plain (settings : PanelSettings) : Prop where
  height : settings.panelHeight.Plain
  scheme : settings.colorScheme.Plain

theorem Plain.set (plain : settings.Plain) (key : String) (value : Json) (told : value.Plain) :
    (settings.set key value).Plain := by
  constructor
  · rw [set_panelHeight]
    split
    · exact told
    · exact plain.height
  · rw [set_colorScheme]
    split
    · exact told
    · exact plain.scheme

theorem Plain.load_save (plain : settings.Plain) : load (some settings.save) = .ok settings := by
  have told : Json.Plain (.obj settings.fields) := by
    refine .obj (by decide : ["panel_height", "color_scheme"].Nodup) ?_
    exact List.forall_mem_cons.mpr ⟨plain.height, List.forall_mem_singleton.mpr plain.scheme⟩
  exact load_object (Config.holds_render ⟨true, some 2⟩ told)

private theorem plain_of_load (loaded : load file = .ok settings) (whole : settings.panelHeight.isWhole = true)
    (textual : settings.colorScheme.isText = true) : settings.Plain := by
  by_cases something : ∃ bytes value, file = some bytes ∧ Config.Holds bytes value
  · obtain ⟨bytes, value, rfl, holds⟩ := something
    have told : value.Told := by
      obtain ⟨text, -, document⟩ := holds
      exact .document document
    cases value with
    | obj fields =>
      rw [load_object holds] at loaded
      cases loaded
      obtain ⟨-, told⟩ := told.object
      constructor
      · refine Json.plain_of_isWhole whole ?_
        cases found : Assoc.find? "panel_height" fields with
        | none => simpa [named, found] using (Json.Plain.int (by decide)).told
        | some height => simpa [named, found] using told _ (Assoc.mem_of_find? found)
      · refine Json.plain_of_isText textual ?_
        cases found : Assoc.find? "color_scheme" fields with
        | none => simpa [named, found] using (Json.Plain.str _).told
        | some scheme => simpa [named, found] using told _ (Assoc.mem_of_find? found)
    | null | bool | int | float | str | units | arr =>
      rw [load_other holds (by simp)] at loaded
      cases loaded
  · rw [load_nothing fun bytes value there holds => something ⟨bytes, value, there, holds⟩] at loaded
    cases loaded
    exact ⟨.int (by decide), .str _⟩

private theorem update_known (loaded : load file = .ok settings) (known : isKnown key = true) (value : Json) :
    update file key value = (.ok (settings.set key value), some (settings.set key value).save) := by
  rw [update, if_pos known, loaded]

private theorem update_unknown (unknown : isKnown key = false) (file : Config.File) (value : Json) :
    update file key value = (.error (.unknown key), file) := by
  rw [update, if_neg (Bool.eq_false_iff.mp unknown)]

theorem Plain.update_update (plain : settings.Plain) (loaded : load file = .ok settings) {name : String} {other : Json}
    (known : isKnown key = true) (told : value.Plain) (knownToo : isKnown name = true) :
    update (update file key value).2 name other = (.ok ((settings.set key value).set name other),
      some ((settings.set key value).set name other).save) := by
  rw [update_known loaded known]
  exact update_known (plain.set key value told).load_save knownToo other

/-- The laws of updates, on a file that remembers a whole number and a text: an update replaces one setting, in what
it returns and in what is loaded afterwards; the order of updates of different settings makes no difference; the
second update of one setting makes the first as if it had not been; and what is no setting is an error that leaves the
file as it is. -/
theorem update_laws (loaded : load file = .ok settings) (whole : settings.panelHeight.isWhole = true)
    (textual : settings.colorScheme.isText = true) {other : Json} (plain : value.Plain) (plainToo : other.Plain) :
    (∀ key, isKnown key = true → ∃ changed after, update file key value = (.ok changed, some after) ∧
      changed.fields = Assoc.put key value settings.fields ∧ load (some after) = .ok changed) ∧
    (∀ key name, isKnown key = true → isKnown name = true → key ≠ name →
      update (update file key value).2 name other = update (update file name other).2 key value) ∧
    (∀ key, isKnown key = true → update (update file key value).2 key other = update file key other) ∧
    (∀ key, isKnown key = false → ∃ error, update file key value = (.error error, file) ∧
      error.failure = .fault .key s!"Unknown setting: {key}") := by
  have remembered := plain_of_load loaded whole textual
  refine ⟨fun key known => ?_, fun key name known knownToo apart => ?_, fun key known => ?_, fun key unknown => ?_⟩
  · exact ⟨_, _, update_known loaded known value, fields_set known value, (remembered.set key value plain).load_save⟩
  · rw [remembered.update_update loaded known plain knownToo, remembered.update_update loaded knownToo plainToo known,
      set_comm apart]
  · rw [remembered.update_update loaded known plain known, update_known loaded known, set_set]
  · exact ⟨.unknown key, update_unknown unknown file value, rfl⟩

/-- An unknown key, a key that stands twice, both kinds of line ends, and halves of characters that stand alone. -/
def oddFile : List UInt8 := Text.Utf8.encode
  "\x7b\"Z\": [7],\r\n\"panel_height\": null,\n\"color_scheme\": \"\\ud83d \\uDC1A\", \"panel_height\": -240\x7d".toList

theorem update_laws_odd : ∃ settings, load (some oddFile) = .ok settings ∧
    settings.fields = [("panel_height", .int (-240)), ("color_scheme", .units [0xD83D, 0x20, 0xDC1A])] ∧
    ∃ changed after, update (some oddFile) "color_scheme" (.str "dürk 🐚") = (.ok changed, some after) ∧
      changed.fields = [("panel_height", .int (-240)), ("color_scheme", .str "dürk 🐚")] ∧
        load (some after) = .ok changed := by
  have loaded : load (some oddFile) = .ok ⟨.int (-240), .units [0xD83D, 0x20, 0xDC1A]⟩ :=
    load_of_held (by decide +kernel) rfl rfl
  obtain ⟨changes, -⟩ := update_laws loaded rfl rfl (.str "dürk 🐚") .null
  exact ⟨_, loaded, rfl, changes "color_scheme" rfl⟩

end PanelSettings

namespace Json

inductive Height : Json → Int → Prop
  | whole (value : Int) : Height (.int value) value
  | truth (value : Bool) : Height (.bool value) (if value then 1 else 0)
  | finite {value : Float} {height : Int} (truncated : Decimal.truncate? value = some height) : Height (.float value) height
  | typed {text : String} {negative : Bool} {digits : List Nat} (typed : Text.Typed text.toList negative digits)
      (few : digits.length ≤ Text.digitLimit) : Height (.str text) (Text.signedNumber negative digits)

private theorem toHeight_str {text : String} {height : Int} :
    toHeight (.str text) = .ok height ↔ Height (.str text) height := by
  rw [toHeight]
  constructor
  · intro told
    split at told
    next number read =>
      obtain ⟨negative, digits, typed, rfl⟩ := Text.integer?_iff.mp read
      split at told
      · cases told
      next few =>
        cases told
        exact .typed typed (typed.digitCount ▸ Nat.not_lt.mp few)
    next => cases told
  · intro height
    cases height with
    | typed typed few =>
      rw [Text.integer?_iff.mpr ⟨_, _, typed, rfl⟩]
      dsimp only
      rw [if_neg (Nat.not_lt.mpr (typed.digitCount ▸ few))]

private theorem toHeight_ok_iff {value : Json} {height : Int} : toHeight value = .ok height ↔ Height value height := by
  cases value with
  | int value =>
    constructor
    · rintro ⟨⟩
      exact .whole _
    · rintro ⟨⟩
      rfl
  | bool value =>
    constructor
    · rintro ⟨⟩
      exact .truth _
    · rintro ⟨⟩
      rfl
  | float value =>
    rw [toHeight]
    constructor
    · intro told
      split at told
      next truncated =>
        cases told
        exact .finite truncated
      next => cases told
    · intro height
      cases height with
      | finite truncated => rw [truncated]
  | str text => exact toHeight_str
  | null | units | arr | obj =>
    constructor <;>
      rintro ⟨⟩

/-- The values that can be remembered as a height: nothing at all, or what stands for a height. -/
def IsHeight (value : Json) : Prop := value = .null ∨ ∃ height, Height value height

/-- The numbers with a fraction that can be remembered are the finite ones. -/
theorem isHeight_float {value : Float} : IsHeight (.float value) ↔ value.isNaN = false ∧ value.isInf = false := by
  have finite : (∃ height, Decimal.truncate? value = some height) ↔ value.isNaN = false ∧ value.isInf = false := by
    rw [← Bool.or_eq_false_iff]
    simp only [Decimal.truncate?]
    split
    next unbounded => exact iff_of_false nofun fun finite => Bool.noConfusion (finite.symm.trans unbounded)
    next bounded => exact iff_of_true ⟨_, rfl⟩ (Bool.eq_false_iff.mpr bounded)
  rw [← finite]
  constructor
  · rintro (nothing | ⟨height, told⟩)
    · cases nothing
    · cases told with
      | finite truncated => exact ⟨height, truncated⟩
  · rintro ⟨height, truncated⟩
    exact .inr ⟨height, .finite truncated⟩

end Json

def Config.RemembersHeight (file : Config.File) : Prop :=
  ∀ bytes fields value, file = some bytes → Holds bytes (.obj fields) → Assoc.find? "panel_height" fields = some value →
    value.IsHeight

theorem PanelSettings.remembersHeight_iff {file : Config.File} {settings : PanelSettings}
    (loaded : load file = .ok settings) :
    Config.RemembersHeight file ↔ settings.panelHeight.IsHeight := by
  constructor
  · intro remembers
    by_cases something : ∃ bytes value, file = some bytes ∧ Config.Holds bytes value
    · obtain ⟨bytes, value, rfl, holds⟩ := something
      cases value with
      | obj fields =>
        rw [load_object holds] at loaded
        cases loaded
        cases found : Assoc.find? "panel_height" fields with
        | none => exact .inr ⟨300, by simpa [named, found] using .whole 300⟩
        | some height => simpa [named, found] using remembers bytes fields height rfl holds found
      | null | bool | int | float | str | units | arr =>
        rw [load_other holds (by simp)] at loaded
        cases loaded
    · rw [load_nothing fun bytes value there holds => something ⟨bytes, value, there, holds⟩] at loaded
      cases loaded
      exact .inr ⟨300, .whole 300⟩
  · rintro height bytes fields value rfl holds found
    rw [load_object holds] at loaded
    cases loaded
    simpa [named, found] using height

namespace Panel

variable {config : PanelConfig} {scheme : String} {font : Font} {height : Json} {panel : Panel}

private theorem create_of_height {wanted : Int} (told : height.Height wanted) (scheme : String) (font : Font) :
    ∃ panel, create config scheme font height = .ok panel ∧ panel.height = config.clamp wanted := by
  have clamped : config.clampHeight height = .ok (config.clamp wanted) := by
    rw [PanelConfig.clampHeight, Json.toHeight_ok_iff.mpr told]
    rfl
  cases told <;>
    simp only [create, bind, Except.bind, clamped, Except.mapError] <;>
    exact ⟨_, rfl, rfl⟩

/-- A panel is built exactly from nothing or from what stands for a height. -/
theorem create_ok_iff : (∃ panel, create config scheme font height = .ok panel) ↔ height.IsHeight := by
  constructor
  · rintro ⟨panel, built⟩
    by_cases nothing : height = .null
    · exact .inl nothing
    · cases told : height.toHeight with
      | ok wanted => exact .inr ⟨wanted, Json.toHeight_ok_iff.mp told⟩
      | error fault =>
        have clamped : config.clampHeight height = .error fault := by
          rw [PanelConfig.clampHeight, told]
          rfl
        simp only [create, bind, Except.bind, clamped, Except.mapError] at built
        cases built
  · rintro (rfl | ⟨wanted, told⟩)
    · exact ⟨_, rfl⟩
    · obtain ⟨panel, built, -⟩ := create_of_height told scheme font
      exact ⟨panel, built⟩

private theorem within_of_create (ordered : config.minHeight ≤ config.maxHeight)
    (built : create config scheme font height = .ok panel) :
    config.minHeight ≤ panel.height ∧ panel.height ≤ config.maxHeight := by
  rcases create_ok_iff.mp ⟨panel, built⟩ with rfl | ⟨wanted, told⟩
  · cases built
    exact PanelConfig.clamp_within ordered config.defaultHeight
  · obtain ⟨same, builtToo, clamped⟩ := create_of_height told scheme font
    cases built.symm.trans builtToo
    rw [clamped]
    exact PanelConfig.clamp_within ordered wanted

end Panel

namespace Window

variable {δ : Type} {config : PanelConfig} {settings : PanelSettings} {file : Config.File} {cwd : String}
  {environment : Environment} {device : δ} {window : Window δ}

private theorem panel_of_create (created : create config settings file cwd environment device = .ok window) : ∃ panel,
    Panel.create config (schemeOf settings) (Font.measured config.fontFamily config.fontSize) settings.panelHeight =
      .ok panel ∧
      window.dock.panel.height = panel.height := by
  simp only [create, bind, Except.bind] at created
  split at created
  · cases created
  next panel built =>
    cases created
    exact ⟨panel, built, rfl⟩

private theorem create_of_panel {panel : Panel} (built : Panel.create config (schemeOf settings)
      (Font.measured config.fontFamily config.fontSize) settings.panelHeight = .ok panel) :
    ∃ window : Window δ, create config settings file cwd environment device = .ok window := by
  simp only [create, bind, Except.bind, built]
  exact ⟨_, rfl⟩

end Window

namespace PanelSettings

variable {δ : Type} {file : Config.File} {settings : PanelSettings} {given : List (String × Json)} {config : PanelConfig}

/-- Settings that were loaded start the application exactly if what their file remembers as the height, if anything, can be
one; then the panel, alone or in its window, has a height within the bounds of the configuration. -/
theorem start_exact (loaded : load file = .ok settings) (valid : Config.validate given = .ok config) (scheme : String)
    (font : Font)
    (cwd : String) (environment : Environment) (device : δ) :
    ((∃ panel, Panel.create config scheme font settings.panelHeight = .ok panel) ↔ Config.RemembersHeight file) ∧
    ((∃ window, Window.create config settings file cwd environment device = .ok window) ↔ Config.RemembersHeight file) ∧
    (∀ panel, Panel.create config scheme font settings.panelHeight = .ok panel →
      config.minHeight ≤ panel.height ∧ panel.height ≤ config.maxHeight) ∧
    ∀ window, Window.create config settings file cwd environment device = .ok window →
      config.minHeight ≤ window.dock.panel.height ∧ window.dock.panel.height ≤ config.maxHeight := by
  have ordered := (Config.validate_sound valid).heights
  rw [remembersHeight_iff loaded]
  refine ⟨Panel.create_ok_iff, ⟨?_, ?_⟩, fun panel => Panel.within_of_create ordered, ?_⟩
  · rintro ⟨window, created⟩
    obtain ⟨panel, built, -⟩ := Window.panel_of_create created
    exact Panel.create_ok_iff.mp ⟨panel, built⟩
  · intro height
    obtain ⟨panel, built⟩ := Panel.create_ok_iff.mpr height
    exact Window.create_of_panel built
  · intro window created
    obtain ⟨panel, built, same⟩ := Window.panel_of_create created
    rw [same]
    exact Panel.within_of_create ordered built

/-- A height as it was typed, with a sign, an underscore, a digit of another script and blanks. -/
def typedFile : List UInt8 := Text.Utf8.encode "\x7b\"panel_height\": \" +9_１0\\t\"\x7d".toList

theorem start_exact_typed : ∃ settings, load (some typedFile) = .ok settings ∧ Config.validate [] = .ok {} ∧
    ∃ panel, Panel.create {} "dark" (.measured "Menlo" 13) settings.panelHeight = .ok panel ∧ panel.height = 800 ∧
      (({} : PanelConfig).minHeight ≤ panel.height ∧ panel.height ≤ ({} : PanelConfig).maxHeight) := by
  have loaded : load (some typedFile) = .ok ⟨.str " +9_１0\t", .str "dark"⟩ :=
    load_of_held (by decide +kernel) rfl rfl
  have valid : Config.validate [] = .ok {} := rfl
  have number : Text.integer? 10 " +9_１0\t".toList = some 910 := by decide
  have told : Json.Height (.str " +9_１0\t") 910 := by
    refine Json.toHeight_str.mp ?_
    rw [Json.toHeight, number]
    exact if_neg (by decide)
  have made : ∃ panel, Panel.create {} "dark" (.measured "Menlo" 13) (.str " +9_１0\t") = .ok panel ∧
      panel.height = ({} : PanelConfig).clamp 910 := Panel.create_of_height told _ _
  obtain ⟨panel, built, clamped⟩ := made
  have bounds := start_exact loaded valid "dark" (.measured "Menlo" 13) "" [] ()
  exact ⟨_, loaded, valid, panel, built, clamped, bounds.2.2.1 panel built⟩

/-- A text that is no number is loaded, and no panel can be built from it. -/
theorem start_exact_fails : ¬∀ file settings given config, load file = .ok settings → Config.validate given = .ok config →
    ∀ scheme font, ∃ panel, Panel.create config scheme font settings.panelHeight = .ok panel := by
  intro builds
  have loaded : load (some (Text.Utf8.encode "\x7b\"panel_height\": \"tall\"\x7d".toList)) =
    .ok ⟨.str "tall", .str "dark"⟩ :=
    load_of_held (by decide +kernel) rfl rfl
  obtain ⟨panel, built⟩ := builds _ _ [] {} loaded rfl "dark" (.measured "Menlo" 13)
  cases built

end PanelSettings

end TerminalDock
