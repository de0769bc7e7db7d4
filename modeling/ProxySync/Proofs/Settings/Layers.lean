import ProxySync.Proofs.Traversal
import ProxySync.Settings.Resolve

/-!
# Three layers of settings, checked as one

Every setting comes from the command line if it is given there, else from the
settings file, else it is the default (`Settings.layered`). Only these settings
are checked, and whatever is wrong with any of them is reported once, in the
fixed order of the complaints and with its number
(`Settings.resolve_of_ofFile`).
-/

namespace ProxySync

open Files

/-! ## Layers -/

/-- What a settings file gives, if there is one. -/
def Choices.ofFile (d : Disk) : Option String → Except SettingsFault Choices
  | some path => Choices.load d path
  | none => .ok {}

/-- Every setting as it is given first: on the command line, in the settings
file, or by default. -/
def Settings.layered (line file : Choices) : Settings :=
  let default : Settings := {}
  { port := (line.port.or file.port).getD default.port
    configPath := (line.configPath.or file.configPath).getD default.configPath
    templatePath := (line.templatePath.or file.templatePath).or default.templatePath
    reloadCommand := (line.reloadCommand.or file.reloadCommand).getD default.reloadCommand
    storePath := (line.storePath.or file.storePath).getD default.storePath
    reloadTimeoutSecs :=
      (line.reloadTimeoutSecs.or file.reloadTimeoutSecs).getD default.reloadTimeoutSecs
    logFormat := (line.logFormat.or file.logFormat).getD default.logFormat }

namespace Settings

variable {d : Disk} {file : Option String} {line chosen : Choices} {isFile : String → Bool}
variable {e : Settings}

theorem apply_apply_eq_layered (line file : Choices) :
    (({} : Settings).apply file).apply line = layered line file := by
  have hgetD {α : Type} (o o' : Option α) (a : α) : o.getD (o'.getD a) = (o.or o').getD a := by
    cases o <;> rfl
  simp only [apply, layered, hgetD, Option.or_assoc]

/-! ## Conditions -/

/-- What is asked of settings. -/
structure Valid (isFile : String → Bool) (e : Settings) : Prop where
  port : e.port ≠ 0
  configPath : e.configPath ≠ ""
  storePath : e.storePath ≠ ""
  reloadCommand : ∃ c ∈ e.reloadCommand.toList, Text.isBlank c = false
  reloadTimeout : e.reloadTimeoutSecs ≠ 0
  templatePath : ∀ path, e.templatePath = some path → isFile path = true

/-- What can be wrong with settings and what is then said of it, in the order
of the report. -/
def complaints (isFile : String → Bool) (e : Settings) : List (Prop × String) := [
  (e.port = 0, "Invalid field 'port': Port must be between 1 and 65535"),
  (e.configPath = "", "Missing required field: haconfig"),
  (e.storePath = "", "Missing required field: db-path"),
  (∀ c ∈ e.reloadCommand.toList, Text.isBlank c = true, "Missing required field: hareload"),
  (e.reloadTimeoutSecs = 0,
    "Invalid field 'reload-timeout-secs': Reload timeout must be at least one second"),
  (∃ path, e.templatePath = some path ∧ isFile path = false,
    "File not found: " ++ e.templatePath.getD "")]

/-- The texts of the complaints that hold, each once and in order. -/
inductive Lists : List (Prop × String) → List String → Prop where
  | nil : Lists [] []
  | holds {p text cs texts} (h : p) (rest : Lists cs texts) :
      Lists ((p, text) :: cs) (text :: texts)
  | fails {p text cs texts} (h : ¬ p) (rest : Lists cs texts) : Lists ((p, text) :: cs) texts

namespace Lists

variable {cs : List (Prop × String)} {texts texts' : List String}

theorem unique (h : Lists cs texts) (h' : Lists cs texts') : texts = texts' := by
  induction h generalizing texts' with
  | nil =>
      cases h'
      rfl
  | holds hp _ ih =>
      cases h' with
      | holds _ rest => rw [ih rest]
      | fails hnot _ => exact absurd hp hnot
  | fails hnot _ ih =>
      cases h' with
      | holds hp _ => exact absurd hp hnot
      | fails _ rest => exact ih rest

theorem eq_nil_iff (h : Lists cs texts) : texts = [] ↔ ∀ c ∈ cs, ¬ c.1 := by
  induction h with
  | nil => simp
  | holds hp _ _ => simp [hp]
  | fails hnot _ ih => simp [hnot, ih]

theorem cons_ite {p q : Prop} [Decidable q] (hpq : p ↔ q) (text : String) (h : Lists cs texts) :
    Lists ((p, text) :: cs) ((if q then [text] else []) ++ texts) := by
  split
  · next hq => exact .holds (hpq.mpr hq) h
  · next hq => exact .fails (fun hp => hq (hpq.mp hp)) h

end Lists

theorem valid_iff_forall_not : e.Valid isFile ↔ ∀ c ∈ complaints isFile e, ¬ c.1 := by
  simp only [complaints, List.forall_mem_cons, List.not_mem_nil, false_imp_iff, implies_true,
    and_true]
  constructor
  · rintro ⟨hport, hconfig, hstore, ⟨c, hc, hblank⟩, htimeout, htemplate⟩
    refine ⟨hport, hconfig, hstore, fun hall => ?_, htimeout, fun ⟨path, hpath, hno⟩ => ?_⟩
    · cases hblank.symm.trans (hall c hc)
    · cases hno.symm.trans (htemplate path hpath)
  · rintro ⟨hport, hconfig, hstore, hcommand, htimeout, htemplate⟩
    refine ⟨hport, hconfig, hstore, ?_, htimeout, fun path hpath => ?_⟩
    · simpa using hcommand
    · cases hfile : isFile path with
      | true => rfl
      | false => exact absurd ⟨path, hpath, hfile⟩ htemplate

/-- **What is reported are the complaints that hold.** -/
theorem lists_violations (isFile : String → Bool) (e : Settings) :
    Lists (complaints isFile e) ((e.violations isFile).map Violation.message) := by
  have hblank : (∀ c ∈ e.reloadCommand.toList, Text.isBlank c = true) ↔
      Text.isBlankText e.reloadCommand = true := List.all_eq_true.symm
  have hpart (p : Prop) [Decidable p] (v : Violation) :
      (if p then [v] else []).map Violation.message = if p then [v.message] else [] := by
    split <;> rfl
  unfold violations complaints
  simp only [List.map_append, hpart, List.append_assoc]
  refine .cons_ite .rfl _ (.cons_ite .rfl _ (.cons_ite .rfl _
    (.cons_ite hblank _ (.cons_ite .rfl _ ?_))))
  cases e.templatePath with
  | none => exact .fails (by simp) .nil
  | some path =>
      dsimp only
      cases hfile : isFile path with
      | true =>
          rw [if_pos rfl]
          exact .fails (by simp [hfile]) .nil
      | false =>
          rw [if_neg Bool.false_ne_true]
          exact .holds ⟨path, rfl, hfile⟩ .nil

theorem violations_eq_nil_iff : e.violations isFile = [] ↔ e.Valid isFile := by
  rw [valid_iff_forall_not, ← (lists_violations isFile e).eq_nil_iff, List.map_eq_nil_iff]

/-- The settings by default pass their own check. -/
theorem valid_default (isFile : String → Bool) : ({} : Settings).Valid isFile where
  port := by decide
  configPath := by decide
  storePath := by decide
  reloadCommand := ⟨'s', by decide, by decide⟩
  reloadTimeout := by decide
  templatePath := nofun

/-! ## The report -/

/-- A line of the report, with its number. -/
def reportLine (p : String × Nat) : String := "  " ++ toString p.2 ++ ". " ++ p.1 ++ "\n"

theorem numberedLines_eq (n : Nat) (vs : List Violation) :
    numberedLines n vs = String.join (((vs.map Violation.message).zipIdx n).map reportLine) := by
  induction vs generalizing n with
  | nil => rfl
  | cons v vs ih =>
      rw [numberedLines, ih, List.map_cons, List.zipIdx_cons, List.map_cons, String.join_cons,
        reportLine]

theorem message_invalid (vs : List Violation) :
    (SettingsFault.invalid vs).message =
      "Configuration validation failed: Found " ++ toString (vs.map Violation.message).length ++
        " validation error(s):\n" ++
        String.join (((vs.map Violation.message).zipIdx 1).map reportLine) := by
  change violationReport vs = _
  unfold violationReport
  rw [numberedLines_eq, List.length_map]

/-! ## The settings in force -/

/-- The layers are laid over each other before anything is checked. -/
theorem resolve_eq (hload : Choices.ofFile d file = .ok chosen) (line : Choices) :
    resolve d file line =
      if (layered line chosen).violations d.isFile = [] then .ok (layered line chosen)
      else .error (.invalid ((layered line chosen).violations d.isFile)) := by
  unfold resolve
  rw [← apply_apply_eq_layered]
  cases file with
  | none =>
      cases hload
      simp only [pure_bind]
      split
      · next hnil => exact (if_pos hnil).symm
      · next hsome => exact (if_neg hsome).symm
  | some path =>
      have hbase : Settings.load d path = .ok (({} : Settings).apply chosen) := by
        have hchosen : Choices.load d path = .ok chosen := hload
        rw [Settings.load, hchosen]
        rfl
      simp only [hbase, bind, Except.bind]
      split
      · next hnil => exact (if_pos hnil).symm
      · next hsome => exact (if_neg hsome).symm

/-- **The settings in force are the layered ones, if these are valid; else all
that is wrong with them is reported.** The report has a header with the number
of complaints, and a line with the text of each that holds, numbered from one. -/
theorem resolve_of_ofFile (hload : Choices.ofFile d file = .ok chosen) (line : Choices) :
    ((∃ s, resolve d file line = .ok s) ↔ (layered line chosen).Valid d.isFile) ∧
    ((layered line chosen).Valid d.isFile → resolve d file line = .ok (layered line chosen)) ∧
    (¬ (layered line chosen).Valid d.isFile →
      ∃ vs texts, resolve d file line = .error (.invalid vs) ∧
        Lists (complaints d.isFile (layered line chosen)) texts ∧
        (SettingsFault.invalid vs).message =
          "Configuration validation failed: Found " ++ toString texts.length ++
            " validation error(s):\n" ++ String.join ((texts.zipIdx 1).map reportLine)) := by
  have hresolve := resolve_eq hload line
  by_cases hvalid : (layered line chosen).Valid d.isFile
  · rw [if_pos (violations_eq_nil_iff.mpr hvalid)] at hresolve
    refine ⟨?_, fun _ => hresolve, fun hnot => absurd hvalid hnot⟩
    simp [hresolve, hvalid]
  · have hnil : (layered line chosen).violations d.isFile ≠ [] :=
      fun hnil => hvalid (violations_eq_nil_iff.mp hnil)
    rw [if_neg hnil] at hresolve
    refine ⟨?_, fun h => absurd h hvalid, fun _ => ?_⟩
    · simp [hresolve, hvalid]
    · exact ⟨_, _, hresolve, lists_violations d.isFile _, message_invalid _⟩

/-- A settings file with three faults, one of which the command line mends. -/
def faultyDisk : Disk where
  nodes := [(["c"], .file 0)]
  files := [(0, { content := .text "port: 0\nhareload: ' '\nhatemplate: t\n" })]
  nextNumber := 1

def faultyChoices : Choices where
  port := some 0
  templatePath := some "t"
  reloadCommand := some " "

theorem resolve_of_ofFile_faulty :
    let line : Choices := { port := some 8081, configPath := some "" }
    let e := layered line faultyChoices
    let texts :=
      ["Missing required field: haconfig", "Missing required field: hareload", "File not found: t"]
    Choices.ofFile faultyDisk (some "c") = .ok faultyChoices ∧ ¬ e.Valid faultyDisk.isFile ∧
      Lists (complaints faultyDisk.isFile e) texts ∧
      ∃ vs, resolve faultyDisk (some "c") line = .error (.invalid vs) ∧
        (SettingsFault.invalid vs).message =
          "Configuration validation failed: Found 3 validation error(s):\n" ++
            "  1. Missing required field: haconfig\n" ++
            "  2. Missing required field: hareload\n" ++ "  3. File not found: t\n" := by
  intro line e texts
  have hload : Choices.ofFile faultyDisk (some "c") = .ok faultyChoices :=
    ok_of_toOption (by decide +kernel)
  have hinvalid : ¬ e.Valid faultyDisk.isFile := fun h => h.configPath rfl
  have hblank : Text.isBlankText e.reloadCommand = true := by decide +kernel
  have hnoFile : faultyDisk.isFile "t" = false := by decide +kernel
  have hlists : Lists (complaints faultyDisk.isFile e) texts :=
    .fails (by decide) (.holds rfl (.fails (by decide) (.holds (List.all_eq_true.mp hblank)
      (.fails (by decide) (.holds ⟨"t", rfl, hnoFile⟩ .nil)))))
  obtain ⟨-, -, hreport⟩ := resolve_of_ofFile hload line
  obtain ⟨vs, texts', hresolve, hlists', hmessage⟩ := hreport hinvalid
  obtain rfl := hlists.unique hlists'
  refine ⟨hload, hinvalid, hlists, vs, hresolve, hmessage.trans ?_⟩
  decide +kernel

end Settings

end ProxySync
