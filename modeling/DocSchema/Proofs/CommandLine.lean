import DocSchema.CommandLine.Run
import DocSchema.Proofs.Compile
import DocSchema.Proofs.FileTree

/-!
# What a run leaves behind

A run that cannot load its settings, read its input or compile it tells one error and changes
nothing. Otherwise every chosen artifact has its own fate: it is written, or it is reported. A file
then holds the text of the last artifact that was written to it, and all other files are as before.
-/
namespace DocSchema.CommandLine

/-- A file system as a value: its operations, the file that a path leads to, if it is not a device,
and what files hold. Only writing changes it. A write takes place completely or fails without
effect, and does not move paths to other files. -/
structure FileSystem (σ File : Type) [DecidableEq File] where
  access : FileAccess (StateM σ)
  named : σ → String → Option File
  content : σ → File → Option String
  isPresent_keeps : ∀ path s, ((access.isPresent path).run s).2 = s
  read_keeps : ∀ path s, ((access.read path).run s).2 = s
  write_fails : ∀ path text s fault, ((access.write path text).run s).1 = .error fault →
    ((access.write path text).run s).2 = s
  write_named : ∀ path text s, ((access.write path text).run s).1 = .ok () →
    ∀ other, named ((access.write path text).run s).2 other = named s other
  write_content : ∀ path text s, ((access.write path text).run s).1 = .ok () →
    ∀ file, content ((access.write path text).run s).2 file =
      if named s path = some file then some text else content s file

/-- What became of an output: the text that was written, or why nothing was. -/
abbrev Fate := Except RunError String

def Fate.error? : Fate → Option RunError
  | .ok _ => none
  | .error e => some e

theorem Fate.error?_eq_none_iff {fate : Fate} : fate.error? = none ↔ ∃ text, fate = .ok text := by
  cases fate <;> simp [Fate.error?]

section Run

variable {σ File : Type} [DecidableEq File]

/-- Outputs with their fates, from one state to another. An output is written with the text of its
artifact. It is not written where its artifact fails or the write does, and then nothing changes. -/
inductive Written (fs : FileSystem σ File) (settings : Settings) (g : Graph) :
    σ → List (Artifact × String) → List Fate → σ → Prop
  | done (s : σ) : Written fs settings g s [] [] s
  | written {s s' : σ} {artifact : Artifact} {path text : String}
      {outputs : List (Artifact × String)} {fates : List Fate}
      (hr : artifact.render settings g = .ok text)
      (hw : ((fs.access.write path text).run s).1 = .ok ())
      (rest : Written fs settings g ((fs.access.write path text).run s).2 outputs fates s') :
      Written fs settings g s ((artifact, path) :: outputs) (.ok text :: fates) s'
  | unwritten {s s' : σ} {artifact : Artifact} {path text : String} {fault : FileFault}
      {outputs : List (Artifact × String)} {fates : List Fate}
      (hr : artifact.render settings g = .ok text)
      (hw : ((fs.access.write path text).run s).1 = .error fault)
      (rest : Written fs settings g s outputs fates s') :
      Written fs settings g s ((artifact, path) :: outputs) (.error (.file fault) :: fates) s'
  | failed {s s' : σ} {artifact : Artifact} {path : String} {failure : Artifact.Failure}
      {outputs : List (Artifact × String)} {fates : List Fate}
      (hr : artifact.render settings g = .error failure)
      (rest : Written fs settings g s outputs fates s') :
      Written fs settings g s ((artifact, path) :: outputs) (.error (.artifact failure) :: fates) s'

/-- A file holds the text of the last output that was written to it. Where there is none, it is as
before. -/
structure LastWritten (fs : FileSystem σ File) (s : σ) (outputs : List ((Artifact × String) × Fate))
    (s' : σ) : Prop where
  last : ∀ before output text after, outputs = before ++ (output, .ok text) :: after →
    ∀ file, fs.named s output.2 = some file →
      (∀ o ∈ after, ∀ text', o.2 = .ok text' → fs.named s o.1.2 ≠ some file) →
      fs.content s' file = some text
  other : ∀ file, (∀ o ∈ outputs, ∀ text, o.2 = .ok text → fs.named s o.1.2 ≠ some file) →
    fs.content s' file = fs.content s file

variable (fs : FileSystem σ File)

theorem run_bind {α β : Type} (x : StateM σ α) (f : α → StateM σ β) (s : σ) :
    (x >>= f).run s = (f (x.run s).1).run (x.run s).2 := rfl

theorem loadSettings_keeps (path : String) (s : σ) :
    ((loadSettings fs.access path).run s).2 = s := by
  rw [loadSettings, run_bind, fs.isPresent_keeps]
  split_ifs with hp
  · rw [run_bind, fs.read_keeps]
    split <;> rfl
  · rfl

theorem findSettings_keeps (platformConfig : Option String) (a : Arguments) (s : σ) :
    ((findSettings fs.access platformConfig a).run s).2 = s := by
  unfold findSettings
  cases a.value? .config with
  | some path => exact loadSettings_keeps fs path s
  | none =>
    dsimp only
    rw [run_bind, fs.isPresent_keeps]
    split_ifs with hl
    · exact loadSettings_keeps fs localConfig s
    · cases platformConfig with
      | none => rfl
      | some path =>
        dsimp only
        rw [run_bind, fs.isPresent_keeps]
        split_ifs with hp
        · exact loadSettings_keeps fs path s
        · rfl

/-- Settings, input and compilation can fail, in this order, and change nothing. -/
theorem prepare_run (platformConfig : Option String) (a : Arguments) (s : σ) :
    (prepare fs.access platformConfig a).run s =
      ((do
        let settings ← ((findSettings fs.access platformConfig a).run s).1
        let source ← ((fs.access.read a.input).run s).1.mapError .file
        let c ← (compile source).mapError (.compile source)
        return (settings, c)), s) := by
  rw [prepare, run_bind, findSettings_keeps]
  cases ((findSettings fs.access platformConfig a).run s).1 with
  | error e => rfl
  | ok settings =>
    dsimp only
    rw [run_bind, fs.read_keeps]
    cases ((fs.access.read a.input).run s).1 with
    | error fault => rfl
    | ok source =>
      dsimp only
      cases hc : compile source with
      | error e => simp [Except.mapError, hc]; rfl
      | ok c => simp [Except.mapError, hc]; rfl

theorem run_of_error {platformConfig : Option String} {a : Arguments} {s : σ} {e : RunError}
    (h : ((prepare fs.access platformConfig a).run s).1 = .error e) :
    (run fs.access platformConfig a).run s = ([e], s) := by
  rw [run, run_bind, h, prepare_run]
  rfl

theorem run_of_ok {platformConfig : Option String} {a : Arguments} {s : σ} {settings : Settings}
    {c : Compiled} (h : ((prepare fs.access platformConfig a).run s).1 = .ok (settings, c)) :
    (run fs.access platformConfig a).run s =
      (writeOutputs fs.access settings c.graph a.outputs).run s := by
  rw [run, run_bind, h, prepare_run]

theorem writeOutputs_written (settings : Settings) (g : Graph) (outputs : List (Artifact × String))
    (s : σ) :
    ∃ fates, Written fs settings g s outputs fates
        ((writeOutputs fs.access settings g outputs).run s).2 ∧
      ((writeOutputs fs.access settings g outputs).run s).1 = fates.filterMap Fate.error? := by
  induction outputs generalizing s with
  | nil => exact ⟨[], .done s, rfl⟩
  | cons output outputs ih =>
    obtain ⟨artifact, path⟩ := output
    cases hr : artifact.render settings g with
    | error failure =>
      have hstep : (writeOutput fs.access settings g (artifact, path)).run s =
          ([.artifact failure], s) := by simp only [writeOutput, hr]; rfl
      obtain ⟨fates, hw, he⟩ := ih s
      refine ⟨.error (.artifact failure) :: fates, ?_, ?_⟩
      · rw [writeOutputs, run_bind, hstep]
        exact .failed hr hw
      · rw [writeOutputs, run_bind, hstep]
        exact congrArg (.artifact failure :: ·) he
    | ok text =>
      cases hwrite : ((fs.access.write path text).run s).1 with
      | error fault =>
        have hstep : (writeOutput fs.access settings g (artifact, path)).run s =
            ([.file fault], s) := by
          simp only [writeOutput, hr]
          rw [run_bind, hwrite, fs.write_fails path text s fault hwrite]
          rfl
        obtain ⟨fates, hw, he⟩ := ih s
        refine ⟨.error (.file fault) :: fates, ?_, ?_⟩
        · rw [writeOutputs, run_bind, hstep]
          exact .unwritten hr hwrite hw
        · rw [writeOutputs, run_bind, hstep]
          exact congrArg (.file fault :: ·) he
      | ok _ =>
        have hstep : (writeOutput fs.access settings g (artifact, path)).run s =
            ([], ((fs.access.write path text).run s).2) := by
          simp only [writeOutput, hr]
          rw [run_bind, hwrite]
          rfl
        obtain ⟨fates, hw, he⟩ := ih ((fs.access.write path text).run s).2
        refine ⟨.ok text :: fates, ?_, ?_⟩
        · rw [writeOutputs, run_bind, hstep]
          exact .written hr hwrite hw
        · rw [writeOutputs, run_bind, hstep]
          exact he

variable {fs}

theorem LastWritten.cons_error {s s' : σ} {outputs : List ((Artifact × String) × Fate)}
    (h : LastWritten fs s outputs s') (output : Artifact × String) (e : RunError) :
    LastWritten fs s ((output, .error e) :: outputs) s' where
  last before output' text after he := by
    rcases before with _ | ⟨first, before⟩
    · simp at he
    · exact h.last before output' text after (List.cons.inj he).2
  other file hn := h.other file fun o ho => hn o (List.mem_cons_of_mem _ ho)

theorem LastWritten.cons_ok {s s' : σ} {outputs : List ((Artifact × String) × Fate)}
    {output : Artifact × String} {text : String}
    (hw : ((fs.access.write output.2 text).run s).1 = .ok ())
    (h : LastWritten fs ((fs.access.write output.2 text).run s).2 outputs s') :
    LastWritten fs s ((output, .ok text) :: outputs) s' := by
  have hnamed := fs.write_named output.2 text s hw
  have hcontent := fs.write_content output.2 text s hw
  refine ⟨fun before output' text' after he file hf hlater => ?_, fun file hn => ?_⟩
  · rcases before with _ | ⟨first, before⟩
    · obtain ⟨ho, rfl⟩ := List.cons.inj he
      obtain ⟨rfl, ht⟩ := Prod.mk.inj ho
      obtain rfl := Except.ok.inj ht
      rw [h.other file fun o ho text' ht => by rw [hnamed]; exact hlater o ho text' ht, hcontent,
        if_pos hf]
    · refine h.last before output' text' after (List.cons.inj he).2 file (by rwa [hnamed]) ?_
      intro o ho text'' ht
      rw [hnamed]
      exact hlater o ho text'' ht
  · have hfirst : fs.named s output.2 ≠ some file := hn _ List.mem_cons_self text rfl
    rw [h.other file fun o ho text' ht => by
      rw [hnamed]; exact hn o (List.mem_cons_of_mem _ ho) text' ht, hcontent, if_neg hfirst]

theorem Written.lastWritten {settings : Settings} {g : Graph} {s s' : σ}
    {outputs : List (Artifact × String)} {fates : List Fate}
    (h : Written fs settings g s outputs fates s') : LastWritten fs s (outputs.zip fates) s' := by
  induction h with
  | done s => exact ⟨by simp, by simp⟩
  | written hr hw _ ih => exact ih.cons_ok hw
  | unwritten hr hw _ ih => exact ih.cons_error _ _
  | failed hr _ ih => exact ih.cons_error _ _

theorem Written.of_failed {settings : Settings} {g : Graph} {s s' : σ} {artifact : Artifact}
    {path : String} {outputs : List (Artifact × String)} {fates : List Fate}
    {failure : Artifact.Failure}
    (h : Written fs settings g s ((artifact, path) :: outputs) fates s')
    (hr : artifact.render settings g = .error failure) :
    ∃ rest, fates = .error (.artifact failure) :: rest ∧
      Written fs settings g s outputs rest s' := by
  cases h with
  | written hr' => rw [hr] at hr'; cases hr'
  | unwritten hr' => rw [hr] at hr'; cases hr'
  | failed hr' rest =>
    rw [hr] at hr'
    cases hr'
    exact ⟨_, rfl, rest⟩

theorem Written.of_written {settings : Settings} {g : Graph} {s s' : σ} {artifact : Artifact}
    {path text : String} {outputs : List (Artifact × String)} {fates : List Fate}
    (h : Written fs settings g s ((artifact, path) :: outputs) fates s')
    (hr : artifact.render settings g = .ok text)
    (hw : ((fs.access.write path text).run s).1 = .ok ()) :
    ∃ rest, fates = .ok text :: rest ∧
      Written fs settings g ((fs.access.write path text).run s).2 outputs rest s' := by
  cases h with
  | failed hr' => rw [hr] at hr'; cases hr'
  | unwritten hr' hw' =>
    rw [hr] at hr'
    cases hr'
    rw [hw] at hw'
    cases hw'
  | written hr' hw' rest =>
    rw [hr] at hr'
    cases hr'
    exact ⟨_, rfl, rest⟩

theorem Written.of_nil {settings : Settings} {g : Graph} {s s' : σ} {fates : List Fate}
    (h : Written fs settings g s [] fates s') : fates = [] := by
  cases h
  rfl

end Run

theorem outputs_chosen (a : Arguments) :
    (a.outputs.map (·.1)).Sublist Artifact.all ∧ ∀ artifact path, (artifact, path) ∈ a.outputs ↔
      a.value? (.output artifact) = some path ∨
        (∀ other, a.value? (.output other) = none) ∧ artifact = .xmlSchema ∧ path = "out.xsd" := by
  have hall (artifact : Artifact) : artifact ∈ Artifact.all := by cases artifact <;> decide
  have hmem (artifact : Artifact) (path : String) :
      (artifact, path) ∈ (Artifact.all.filterMap fun artifact =>
        (a.value? (.output artifact)).map fun path => (artifact, path)) ↔
        a.value? (.output artifact) = some path := by
    simp [List.mem_filterMap, hall]
  rw [Arguments.outputs]
  cases hc : Artifact.all.filterMap fun artifact =>
      (a.value? (.output artifact)).map fun path => (artifact, path) with
  | nil =>
    rw [hc] at hmem
    have hnone (other : Artifact) : a.value? (.output other) = none := by
      rw [Option.eq_none_iff_forall_not_mem]
      exact fun path hp => List.not_mem_nil ((hmem other path).mpr hp)
    exact ⟨by decide, by simp [hnone]⟩
  | cons first rest =>
    rw [hc] at hmem
    have hsome : ¬∀ other, a.value? (.output other) = none := by
      intro hnone
      have hfirst := (hmem first.1 first.2).mp List.mem_cons_self
      simp [hnone] at hfirst
    refine ⟨?_, fun artifact path => by simp [hmem, hsome]⟩
    have hsub := map_fst_filterMap_sublist (fun artifact => a.value? (.output artifact))
      Artifact.all
    rwa [hc] at hsub

theorem treeAccess_write_ok {t t' : FileTree} {path text : String}
    (h : t.write path text = .ok t') :
    (treeAccess.write path text).run t = (.ok (), t') := by
  simp [treeAccess, h]
  rfl

theorem treeAccess_write_error {t : FileTree} {path text : String} {fault : FileFault}
    (h : t.write path text = .error fault) :
    (treeAccess.write path text).run t = (.error fault, t) := by
  simp [treeAccess, h]
  rfl

theorem write_of_treeAccess {t : FileTree} {path text : String}
    (h : ((treeAccess.write path text).run t).1 = .ok ()) :
    t.write path text = .ok ((treeAccess.write path text).run t).2 := by
  cases hw : t.write path text with
  | error fault => rw [treeAccess_write_error hw] at h; cases h
  | ok t' => rw [treeAccess_write_ok hw]

def treeSystem : FileSystem FileTree Path where
  access := treeAccess
  named := FileTree.named
  content := FileTree.content?
  isPresent_keeps _ _ := rfl
  read_keeps _ _ := rfl
  write_fails path text t fault h := by
    cases hw : t.write path text with
    | error _ => rw [treeAccess_write_error hw]
    | ok t' => rw [treeAccess_write_ok hw] at h; cases h
  write_named _ _ _ h := FileTree.named_write (write_of_treeAccess h)
  write_content _ _ _ h := FileTree.content?_write (write_of_treeAccess h)

/-- A run tells one error and changes nothing where the settings cannot be loaded, the input cannot
be read or it does not compile. Otherwise it tells the errors of the outputs that were not written,
in the order of the artifacts, and none if all were. Files that were written hold the text of the
last artifact written to them, which is the text of the artifact alone, and all others are as
before. -/
theorem run_reports_or_writes {σ File : Type} [DecidableEq File] (fs : FileSystem σ File)
    (platformConfig : Option String) (a : Arguments) (s : σ) :
    let result := (run fs.access platformConfig a).run s
    let loaded := ((findSettings fs.access platformConfig a).run s).1
    let input := ((fs.access.read a.input).run s).1
    (a.outputs.map (·.1)).Sublist Artifact.all ∧
    (∀ artifact path, (artifact, path) ∈ a.outputs ↔ a.value? (.output artifact) = some path ∨
      (∀ other, a.value? (.output other) = none) ∧ artifact = .xmlSchema ∧ path = "out.xsd") ∧
    (∀ e, loaded = .error e → result = ([e], s)) ∧
    ∀ settings, loaded = .ok settings →
      (∀ fault, input = .error fault → result = ([.file fault], s)) ∧
      ∀ source, input = .ok source →
        (∀ e, compile source = .error e → result = ([.compile source e], s)) ∧
        ∀ c, compile source = .ok c → ∃ fates,
          Written fs settings c.graph s a.outputs fates result.2 ∧
          result.1 = fates.filterMap Fate.error? ∧
          (result.1 = [] ↔ ∀ fate ∈ fates, ∃ text, fate = .ok text) ∧
          LastWritten fs s (a.outputs.zip fates) result.2 := by
  intro result loaded input
  have hprepare : ((prepare fs.access platformConfig a).run s).1 = (do
      let settings ← loaded
      let source ← input.mapError .file
      let c ← (compile source).mapError (.compile source)
      return (settings, c)) := congrArg Prod.fst (prepare_run fs platformConfig a s)
  obtain ⟨horder, hchosen⟩ := outputs_chosen a
  refine ⟨horder, hchosen, fun e he => run_of_error fs ?_, fun settings hs =>
    ⟨fun fault hf => run_of_error fs ?_, fun source hi =>
      ⟨fun e he => run_of_error fs ?_, fun c hc => ?_⟩⟩⟩
  · rw [hprepare, he]
    rfl
  · rw [hprepare, hs, hf]
    rfl
  · rw [hprepare, hs, hi]
    simp [Except.mapError, he]
  · have hr : result = (writeOutputs fs.access settings c.graph a.outputs).run s := by
      refine run_of_ok fs ?_
      rw [hprepare, hs, hi]
      simp [Except.mapError, hc]
    obtain ⟨fates, hw, he⟩ := writeOutputs_written fs settings c.graph a.outputs s
    rw [hr]
    refine ⟨fates, hw, he, ?_, hw.lastWritten⟩
    rw [he, List.filterMap_eq_nil_iff]
    exact forall₂_congr fun fate _ => Fate.error?_eq_none_iff

/-- An unordered child that may be repeated, which an XML Schema cannot express. -/
def repeatedSource : String :=
  "root element s \x7ballowedContent: \x7bb (n >= 0)\x7d;\x7d element b \x7b\x7d"

def sharedTree : FileTree := ⟨[(["in"], repeatedSource), (["x"], "old")]⟩

/-- Three artifacts, two of them under different paths to one file. -/
def sharedArguments : Arguments :=
  ⟨"in", [(.output .dump, "./y"), (.output .xmlSchema, "x"), (.output .manual, "y")]⟩

set_option maxRecDepth 4000 in
theorem run_reports_or_writes_shared :
    ∃ c e errors tree, compile repeatedSource = .ok c ∧
      XmlSchema.render .default c.graph = .error e ∧
      runOnTree none sharedArguments sharedTree = (errors, tree) ∧ errors = [.artifact e] ∧
      tree.content? ["x"] = some "old" ∧
      tree.content? ["y"] = some (c.graph.toJson.text ++ "\n") := by
  obtain ⟨c, hc, ht⟩ := exists_compiled (String.toList_ofList : repeatedSource.toList = _)
    (fun c => (XmlSchema.render .default c.graph).toOption.isNone) (by decide)
  obtain ⟨e, hx⟩ : ∃ e, Artifact.xmlSchema.render .default c.graph = .error e := by
    cases hx : XmlSchema.render .default c.graph with
    | ok text => simp [hx, Except.toOption] at ht
    | error e => exact ⟨e, hx⟩
  obtain ⟨-, -, -, hrun⟩ := run_reports_or_writes treeSystem none sharedArguments sharedTree
  obtain ⟨fates, hw, he, -, hl⟩ := ((hrun .default rfl).2 repeatedSource rfl).2 c hc
  have ho : sharedArguments.outputs = [(.xmlSchema, "x"), (.manual, "y"), (.dump, "./y")] := by
    decide
  have hres : runOnTree none sharedArguments sharedTree =
    (run treeSystem.access none sharedArguments).run sharedTree := rfl
  rw [ho] at hw hl
  rw [hres]
  generalize (run treeSystem.access none sharedArguments).run sharedTree = result at hw he hl ⊢
  obtain ⟨errors, tree⟩ := result
  have hm : Artifact.manual.render .default c.graph = .ok (Manual.render .default c.graph) := rfl
  have hd : Artifact.dump.render .default c.graph = .ok (c.graph.toJson.text ++ "\n") := rfl
  have hy (text : String) : (treeSystem.access.write "y" text).run sharedTree =
      (.ok (), ⟨sharedTree.files ++ [(["y"], text)]⟩) := treeAccess_write_ok rfl
  have hy' (text text' : String) :
      ((treeSystem.access.write "./y" text').run ⟨sharedTree.files ++ [(["y"], text)]⟩).1 =
        .ok () := congrArg Prod.fst (treeAccess_write_ok rfl)
  -- the XML Schema fails, and the other two can be written
  obtain ⟨_, rfl, hrest⟩ := hw.of_failed hx
  obtain ⟨_, rfl, hdump⟩ := hrest.of_written hm (congrArg Prod.fst (hy _))
  rw [hy] at hdump
  obtain ⟨_, rfl, hend⟩ := hdump.of_written hd (hy' _ _)
  obtain rfl := hend.of_nil
  refine ⟨c, e, errors, tree, hc, hx, rfl, he, ?_, ?_⟩
  · refine hl.other ["x"] ?_
    have hnamed : sharedTree.named "y" ≠ some ["x"] ∧ sharedTree.named "./y" ≠ some ["x"] := by
      decide
    simpa [treeSystem] using hnamed
  · exact hl.last [_, _] (.dump, "./y") _ [] rfl ["y"] rfl (by simp)

end DocSchema.CommandLine
