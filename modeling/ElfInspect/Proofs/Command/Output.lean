import Mathlib
import ElfInspect.Proofs.Command.Run

/-!
# What runs show

A run over several files shows a block for each of them that has a dump, with an empty line between
two blocks.  A file without one adds no block.  In front of the others it leaves an empty line,
since the files behind it count their place among the arguments and not among the blocks.  All this
is for files with marks that fit together; the first other one breaks the run off.
-/

namespace ElfInspect

/-- The same surroundings at another time. -/
def Environment.atTime (environment : Environment) (time : String)
    (entryText : (isJson : Bool) → (number : Nat) → LogEntry → String) : Environment :=
  { environment with time := time, entryText := entryText }

namespace Command

variable {environment : Environment} {volume : Volume} {words : List String}
  {invocation : Invocation} {plan : Plan} {limit code : Int}

namespace Plan

/-! ## Blocks -/

/-- What is shown of a file under its name, if it has a dump. -/
def block? (plan : Plan) (name : String) : Option (List String) :=
  (plan.dump? name).map fun dump =>
    let screen := plan.environment.output
    (Console.print screen ("File: " ++ Markup.escape name) ++
      Display.page screen plan.settings.dump.nameWidth.number? plan.invocation.parts dump).lines

/-- The blocks of files. -/
def blocks (plan : Plan) (files : List String) : List (List String) := files.filterMap plan.block?

/-- What stands before the first block: an empty line if the first file has no dump. -/
def lead (plan : Plan) : List String → List String
  | [] => []
  | name :: _ => if (plan.block? name).isSome then [] else [""]

/-- The lines of blocks, with an empty line between two of them. -/
def separated (blocks : List (List String)) : List String := [""].intercalate blocks

theorem separated_cons (block : List String) (blocks : List (List String)) :
    separated (block :: blocks) = block ++ blocks.flatMap ("" :: ·) := by
  induction blocks generalizing block with
  | nil => simp [separated]
  | cons next rest induction =>
      rw [separated, List.intercalate_cons_cons, ← separated, induction, List.flatMap_cons]
      simp

theorem block?_of_error {name : String} {fault : DumpFault}
    (rejected : plan.result name = .error fault) : plan.block? name = none := by
  rw [block?, dump?_of_error rejected, Option.map_none]

theorem lead_of_error {name : String} {fault : DumpFault}
    (rejected : plan.result name = .error fault) (rest : List String) :
    plan.lead (name :: rest) = [""] := by
  rw [lead, block?_of_error rejected]
  rfl

theorem blocks_cons (name : String) (rest : List String) :
    plan.blocks (name :: rest) = (plan.block? name).toList ++ plan.blocks rest := by
  rw [blocks, List.filterMap_cons]
  cases plan.block? name <;> rfl

/-- A file without a dump adds no block, wherever it stands. -/
theorem blocks_insert {name : String} (blockless : plan.block? name = none)
    (front back : List String) :
    plan.blocks (front ++ name :: back) = plan.blocks (front ++ back) := by
  rw [blocks, blocks, List.filterMap_append, List.filterMap_cons_none blockless,
    List.filterMap_append]

theorem shown_eq (no_json : plan.invocation.json = false) (several : plan.announces = true)
    (index : Nat) (name : String) :
    plan.shown index name =
      (plan.block? name).toList.flatMap fun block =>
        (if index = 0 then [] else [""]) ++ block := by
  rw [shown, block?]
  cases plan.dump? name with
  | none => rfl
  | some dump =>
      simp only [Option.toList_some, Option.map_some, List.flatMap_singleton, no_json,
        Bool.false_eq_true, if_false, page, several]
      rw [Page.lines_append (by cases index <;> rfl), block, several]
      cases index <;> rfl

/-- Behind the first argument every block follows an empty line. -/
theorem flatten_shown_behind (no_json : plan.invocation.json = false)
    (several : plan.announces = true) (files : List String) (place : Nat → Nat)
    (behind : ∀ index, place index ≠ 0) :
    (files.mapIdx fun index name => plan.shown (place index) name).flatten =
      (plan.blocks files).flatMap ("" :: ·) := by
  induction files generalizing place with
  | nil => rfl
  | cons name rest induction =>
      have later := induction (fun index => place (index + 1)) fun index => behind (index + 1)
      rw [List.mapIdx_cons, List.flatten_cons, later, shown_eq no_json several,
        if_neg (behind 0), blocks_cons, List.flatMap_append]
      rfl

/-- All that is shown of files, if there is a block among them. -/
theorem flatten_shown (no_json : plan.invocation.json = false)
    (several : plan.announces = true) {files : List String} (filled : plan.blocks files ≠ []) :
    (files.mapIdx plan.shown).flatten = plan.lead files ++ separated (plan.blocks files) := by
  cases files with
  | nil => exact absurd rfl filled
  | cons name rest =>
      have later := flatten_shown_behind no_json several rest (· + 1) Nat.succ_ne_zero
      rw [List.mapIdx_cons, List.flatten_cons, later, shown_eq no_json several, if_pos rfl, lead]
      rw [blocks_cons] at filled ⊢
      cases block_eq : plan.block? name with
      | some block =>
          simp only [Option.toList_some, List.singleton_append, List.flatMap_singleton,
            List.nil_append, Option.isSome_some, if_true]
          exact (separated_cons block _).symm
      | none =>
          rw [block_eq] at filled
          obtain ⟨block, others, blocks_eq⟩ := List.exists_cons_of_ne_nil filled
          rw [Option.toList_none, List.nil_append] at blocks_eq
          rw [blocks_eq, Option.toList_none, List.nil_append, separated_cons]
          rfl

end Plan

/-! ## Whole runs -/

/-- Whether or not the report can be written, what is shown of the files stays. -/
theorem stdout_finish (no_json : plan.invocation.json = false)
    (code_eq : plan.settings.dump.warningsExitCode = .integer code) (files : List String) :
    (finish plan (Session.after plan files)).stdout = (files.mapIdx plan.shown).flatten := by
  change (close plan (Session.after plan files)).stdout = _
  unfold close
  simp only [no_json, Bool.false_eq_true, if_false, List.append_nil,
    Session.exitStatus_eq _ code_eq]
  cases writeReport _ _ plan.invocation.output _ with
  | error fault => rfl
  | ok written => cases fault_eq : written.2.fault <;> simp [fault_eq, brokenOff, Session.after]

/-- A plan with several blocks announces its files. -/
theorem announces_of_blocks {files : List String} (files_eq : plan.invocation.files = files)
    (several : 2 ≤ (plan.blocks files).length) : plan.announces = true := by
  have fewer : (plan.blocks files).length ≤ files.length := List.length_filterMap_le _ _
  rw [Plan.announces, files_eq]
  exact decide_eq_true (several.trans fewer)

/-- What a run with two blocks or more shows, if it does not write its report there. -/
theorem stdout_run (planned : Planned environment volume invocation plan limit code)
    (asked : Request.ofWords words = .run invocation) (no_json : invocation.json = false)
    (accepted : ∀ name ∈ invocation.files, refusal? volume name = none)
    (apart : ∀ name ∈ invocation.files, plan.KeepsOffLog name)
    (render : ∀ name ∈ invocation.files, plan.Renders name)
    (several : 2 ≤ (plan.blocks invocation.files).length) :
    (run environment volume words).stdout =
      plan.lead invocation.files ++ Plan.separated (plan.blocks invocation.files) := by
  have shows : plan.invocation.json = false := by rw [planned.invocation_eq, no_json]
  have announces : plan.announces = true :=
    announces_of_blocks (congrArg Invocation.files planned.invocation_eq) several
  have filled : plan.blocks invocation.files ≠ [] := List.ne_nil_of_length_pos (by omega)
  rw [planned.run_eq asked accepted, Session.takeAll_start planned.sound _ apart render,
    stdout_finish shows planned.code, Plan.flatten_shown shows announces filled]

/-- A plan for other files, at another time. -/
def Plan.withFiles (plan : Plan) (time : String)
    (entryText : (isJson : Bool) → (number : Nat) → LogEntry → String) (files : List String) :
    Plan :=
  { plan with
    invocation := { plan.invocation with files := files }
    environment := plan.environment.atTime time entryText }

/-- Other files and another time leave the rest of a plan as it is. -/
theorem Planned.withFiles (planned : Planned environment volume invocation plan limit code)
    (time : String) (entryText : (isJson : Bool) → (number : Nat) → LogEntry → String)
    (files : List String) :
    Planned (environment.atTime time entryText) volume { invocation with files := files }
      (plan.withFiles time entryText files) limit code := by
  obtain ⟨level, opened, logFile, level_eq, opened_eq, plan_eq⟩ :=
    Plan.make_eq_ok_iff.mp planned.made
  exact
    { loaded := planned.loaded
      limit := planned.limit
      code := planned.code
      width := planned.width
      made := Plan.make_eq_ok_iff.mpr
        ⟨level, opened, logFile, level_eq, opened_eq, by rw [plan_eq]; rfl⟩ }

/-- What is written about a file is the same, as long as the files are announced alike. -/
theorem renders_withFiles_iff {time : String}
    {entryText : (isJson : Bool) → (number : Nat) → LogEntry → String} {files : List String}
    (announces : (plan.withFiles time entryText files).announces = plan.announces)
    (name : String) : (plan.withFiles time entryText files).Renders name ↔ plan.Renders name := by
  have result_eq : (plan.withFiles time entryText files).result name = plan.result name := rfl
  rw [Plan.Renders, Plan.Renders, Plan.pageFault?, Plan.pageFault?, result_eq]
  cases plan.result name with
  | ok dump =>
      rw [Plan.faultOf, Plan.faultOf, Plan.block, Plan.block, announces]
      rfl
  | error fault => rfl

/-- One more file that has no dump leaves what is shown as it is, unless it is put in front of a
file with a block: then an empty line appears before everything else. -/
theorem stdout_with_rejected_file (otherTime : String)
    (otherText : (isJson : Bool) → (number : Nat) → LogEntry → String)
    {otherWords front back : List String} {name : String} {fault : DumpFault}
    (asked : Request.ofWords words = .run invocation) (files_eq : invocation.files = front ++ back)
    (other_asked : Request.ofWords otherWords =
      .run { invocation with files := front ++ name :: back })
    (no_json : invocation.json = false)
    (accepted : ∀ file ∈ front ++ name :: back, refusal? volume file = none)
    (planned : Planned environment volume invocation plan limit code)
    (apart : ∀ file ∈ front ++ name :: back, plan.KeepsOffLog file)
    (render : ∀ file ∈ front ++ name :: back, plan.Renders file)
    (rejected : plan.result name = .error fault)
    (several : 2 ≤ (plan.blocks (front ++ back)).length) :
    (run environment volume words).stdout =
        plan.lead (front ++ back) ++ Plan.separated (plan.blocks (front ++ back)) ∧
      (front ≠ [] ∨ plan.lead back = [""] →
        (run (environment.atTime otherTime otherText) volume otherWords).stdout =
          (run environment volume words).stdout) ∧
      (front = [] → plan.lead back = [] →
        (run (environment.atTime otherTime otherText) volume otherWords).stdout =
          "" :: (run environment volume words).stdout) := by
  have included : ∀ file ∈ front ++ back, file ∈ front ++ name :: back :=
    ((List.sublist_cons_self name back).append_left front).subset
  have stdout_eq := stdout_run planned asked no_json
    (by rw [files_eq]; exact fun file member => accepted file (included file member))
    (by rw [files_eq]; exact fun file member => apart file (included file member))
    (by rw [files_eq]; exact fun file member => render file (included file member))
    (by rw [files_eq]; exact several)
  rw [files_eq] at stdout_eq
  have blocks_eq := Plan.blocks_insert (Plan.block?_of_error rejected) front back
  have other_eq : (run (environment.atTime otherTime otherText) volume otherWords).stdout =
      plan.lead (front ++ name :: back) ++ Plan.separated (plan.blocks (front ++ back)) := by
    have announces : plan.announces = true := announces_of_blocks
      ((congrArg Invocation.files planned.invocation_eq).trans files_eq) several
    rw [← blocks_eq] at several ⊢
    let other := plan.withFiles otherTime otherText (front ++ name :: back)
    have other_announces : other.announces = true := announces_of_blocks rfl several
    have shown := stdout_run (planned.withFiles otherTime otherText (front ++ name :: back))
      other_asked no_json accepted apart
      (fun file member => (renders_withFiles_iff (other_announces.trans announces.symm) file).mpr
        (render file member)) several
    exact shown
  refine ⟨stdout_eq, ?leaves, ?adds⟩
  case leaves =>
    intro place
    rw [other_eq, stdout_eq]
    cases front with
    | cons first rest => rfl
    | nil =>
        have lead_eq : plan.lead back = [""] := place.resolve_left (absurd rfl)
        rw [List.nil_append, List.nil_append, lead_eq, Plan.lead_of_error rejected]
  case adds =>
    rintro rfl lead_eq
    rw [other_eq, stdout_eq, List.nil_append, List.nil_append, lead_eq,
      Plan.lead_of_error rejected]
    rfl

/-! ## A file that is missing -/

theorem ofText_m : Path.ofText "m" = { root := "", parts := ["m"] } := by cbv

theorem result_missing (files : List String) :
    (samplePlan files).result "m" = .error (.unreadable (.missing (Path.ofText "m").text)) := by
  rw [Plan.result, Dump.ofFile_eq, ofText_m]
  rfl

theorem keepsOffLog_missing (files : List String) : (samplePlan files).KeepsOffLog "m" := by
  refine keepsOffLog_sample files (by decide) ofText_m fun suffix same => ?_
  simpa using congrArg String.toList same

theorem keepsOffLog_both (files : List String) :
    ∀ name ∈ ["m", "b"], (samplePlan files).KeepsOffLog name :=
  List.forall_mem_cons.mpr
    ⟨keepsOffLog_missing files, List.forall_mem_singleton.mpr (keepsOffLog_b files)⟩

theorem accepted_both : ∀ name ∈ ["m", "b"], refusal? sampleVolume name = none := by
  have missing : refusal? sampleVolume "m" = none := by
    rw [refusal?, Volume.isDirectory, ofText_m]
    rfl
  exact List.forall_mem_cons.mpr
    ⟨missing, List.forall_mem_singleton.mpr (accepted_sample "b" (.head _))⟩

theorem asked_whole :
    Request.ofWords (sampleWords ["b", "b"]) = .run (sampleInvocation ["b", "b"]) := rfl

theorem isSome_block_b (files : List String) : ((samplePlan files).block? "b").isSome := by
  obtain ⟨dump, result_eq, _⟩ := exists_result_b files
  rw [Plan.block?, Plan.dump?_of_ok result_eq]
  rfl

theorem length_blocks_b (files : List String) :
    ((samplePlan files).blocks ["b", "b"]).length = 2 := by
  obtain ⟨block, block_eq⟩ := Option.isSome_iff_exists.mp (isSome_block_b files)
  simp [Plan.blocks, block_eq]

/-- A missing file between two whole ones does not show. -/
theorem stdout_with_missing_file_between :
    (∀ name ∈ ["b", "m", "b"], refusal? sampleVolume name = none) ∧
      Planned sampleEnvironment sampleVolume (sampleInvocation ["b", "b"])
        (samplePlan ["b", "b"]) 268435456 2 ∧
      (∀ name ∈ ["b", "m", "b"], (samplePlan ["b", "b"]).KeepsOffLog name) ∧
      (∀ name ∈ ["b", "m", "b"], (samplePlan ["b", "b"]).Renders name) ∧
      (run sampleEnvironment sampleVolume (sampleWords ["b", "m", "b"])).stdout =
        (run sampleEnvironment sampleVolume (sampleWords ["b", "b"])).stdout := by
  have included : ["b"] ++ "m" :: ["b"] ⊆ ["m", "b"] := by decide
  have accepted : ∀ name ∈ ["b"] ++ "m" :: ["b"], refusal? sampleVolume name = none :=
    fun name member => accepted_both name (included member)
  have apart : ∀ name ∈ ["b"] ++ "m" :: ["b"], (samplePlan ["b", "b"]).KeepsOffLog name :=
    fun name member => keepsOffLog_both _ name (included member)
  have render : ∀ name ∈ ["b"] ++ "m" :: ["b"], (samplePlan ["b", "b"]).Renders name :=
    fun name _ => renders_sample _ name
  have planned := planned_sample ["b", "b"]
  have files_eq : (sampleInvocation ["b", "b"]).files = ["b"] ++ ["b"] := rfl
  have other_asked : Request.ofWords (sampleWords ["b", "m", "b"]) =
      .run { sampleInvocation ["b", "b"] with files := ["b"] ++ "m" :: ["b"] } := rfl
  have shows := stdout_with_rejected_file "now" sampleEnvironment.entryText asked_whole files_eq
    other_asked rfl accepted planned apart render (result_missing _) (length_blocks_b _).ge
  exact ⟨accepted, planned, apart, render, shows.2.1 (.inl (List.cons_ne_nil _ _))⟩

/-- A missing file in front of two whole ones shows as an empty line. -/
theorem stdout_changed_by_missing_file_in_front :
    Request.ofWords (sampleWords ["b", "b"]) = .run (sampleInvocation ["b", "b"]) ∧
      Request.ofWords (sampleWords ["m", "b", "b"]) = .run (sampleInvocation ["m", "b", "b"]) ∧
      (∀ name ∈ ["m", "b", "b"], refusal? sampleVolume name = none) ∧
      Planned sampleEnvironment sampleVolume (sampleInvocation ["b", "b"])
        (samplePlan ["b", "b"]) 268435456 2 ∧
      (∀ name ∈ ["m", "b", "b"], (samplePlan ["b", "b"]).KeepsOffLog name) ∧
      (∀ name ∈ ["m", "b", "b"], (samplePlan ["b", "b"]).Renders name) ∧
      (∃ fault, (samplePlan ["b", "b"]).result "m" = .error fault) ∧
      ((samplePlan ["b", "b"]).blocks ["b", "b"]).length = 2 ∧
      (run sampleEnvironment sampleVolume (sampleWords ["m", "b", "b"])).stdout ≠
        (run sampleEnvironment sampleVolume (sampleWords ["b", "b"])).stdout := by
  have included : ["m", "b", "b"] ⊆ ["m", "b"] := by decide
  have accepted : ∀ name ∈ ["m", "b", "b"], refusal? sampleVolume name = none :=
    fun name member => accepted_both name (included member)
  have apart (files : List String) :
      ∀ name ∈ ["m", "b", "b"], (samplePlan files).KeepsOffLog name :=
    fun name member => keepsOffLog_both _ name (included member)
  have render (files : List String) : ∀ name ∈ ["m", "b", "b"], (samplePlan files).Renders name :=
    fun name _ => renders_sample files name
  have other_asked : Request.ofWords (sampleWords ["m", "b", "b"]) =
      .run (sampleInvocation ["m", "b", "b"]) := rfl
  have rejected := result_missing ["m", "b", "b"]
  have stdout_eq := stdout_run (planned_sample ["b", "b"]) asked_whole rfl
    (fun name member => accepted name (.tail _ member))
    (fun name member => apart _ name (.tail _ member))
    (fun name member => render _ name (.tail _ member)) (length_blocks_b _).ge
  have blocks_eq : (samplePlan ["m", "b", "b"]).blocks ["m", "b", "b"] =
      (samplePlan ["b", "b"]).blocks ["b", "b"] :=
    Plan.blocks_insert (Plan.block?_of_error rejected) [] ["b", "b"]
  have other_eq := stdout_run (planned_sample ["m", "b", "b"]) other_asked rfl accepted (apart _)
    (render _) ((length_blocks_b _).ge.trans_eq (congrArg List.length blocks_eq.symm))
  have files_eq (files : List String) : (sampleInvocation files).files = files := rfl
  rw [files_eq, Plan.lead, if_pos (isSome_block_b _), List.nil_append] at stdout_eq
  rw [files_eq, blocks_eq, Plan.lead_of_error rejected, ← stdout_eq] at other_eq
  refine ⟨asked_whole, other_asked, accepted, planned_sample _, apart _, render _,
    ⟨_, result_missing _⟩, length_blocks_b _, ?_⟩
  rw [other_eq]
  exact List.cons_ne_self _ _

end Command
end ElfInspect
