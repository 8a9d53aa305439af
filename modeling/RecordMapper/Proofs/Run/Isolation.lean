import RecordMapper.Proofs.Manifest.Names
import RecordMapper.Proofs.Run.Accounting

/-!
# Isolation of markers

What comes of a marker is decided by its origin and by the declaration found for its target, both
without their markers. The rest of the manifest, and the order of its declarations, decide only
which other outcomes there are and where they stand: a run consists of one block of outcomes for
each declaration (`Manifest.runsInBlocks`), and where no name occurs twice, each declaration keeps
its block when the declarations are permuted (`Manifest.run_isolated`).
-/

namespace RecordMapper

/-- The report of a run that wrote its file and had these blocks of outcomes. -/
def Report.ofBlocks (options : Options) (blocks : List (List Outcome)) : Report where
  sourceDigest? := none
  output? := some options.outputFile
  functions := blocks.flatMap fun block => (block.filterMap (·.function?)).map (·.emitted)
  diagnostics := blocks.flatMap fun block => block.filterMap (·.diagnostic?)

namespace Manifest

/-- The outcomes of the markers on one declaration, in order. -/
def block (manifest : Manifest) (erase : Bool) (origin : Declaration) : List Outcome :=
  origin.mappers.map fun target => manifest.outcome erase ⟨origin, target⟩

/-- The blocks of all declarations, in manifest order. -/
def blocks (manifest : Manifest) (erase : Bool) : List (List Outcome) :=
  manifest.declarations.map (manifest.block erase)

/-- The runs of the manifest into every sink consist of these blocks: if there is no outcome in
them, a run does nothing; otherwise it writes the header and one text after the other, block by
block, and its report has the functions and the diagnostics block by block. -/
structure RunsInBlocks (manifest : Manifest) (options : Options)
    (blocks : List (List Outcome)) : Prop where
  idle : blocks.flatten = [] →
    ∀ {m : Type → Type} [Monad m] [LawfulMonad m] (sink : Sink m),
      manifest.run options sink = pure (.ok .empty)
  busy : blocks.flatten ≠ [] →
    ∀ {m : Type → Type} [Monad m] [LawfulMonad m] (sink : Sink m),
      manifest.run options sink =
        sink.deliver options (fileHeader options.package :: blocks.flatMap Outcome.texts)
          (.ofBlocks options blocks)

variable {first second : Manifest}

theorem flatten_blocks (manifest : Manifest) (erase : Bool) :
    (manifest.blocks erase).flatten = manifest.outcomes erase := by
  rw [outcomes_eq_markerOutcomes]
  rfl

theorem flatten_blocks_eq_nil_iff (manifest : Manifest) (erase : Bool) :
    (manifest.blocks erase).flatten = [] ↔ manifest.candidates = [] := by
  rw [flatten_blocks, outcomes, List.map_eq_nil_iff]

/-- The chunks of a run are the header and the texts of all blocks. -/
theorem chunks_eq_blocks (manifest : Manifest) (options : Options) :
    manifest.chunks options = fileHeader options.package ::
      (manifest.blocks options.eraseGenerics).flatMap Outcome.texts := by
  have texts (blocks : List (List Outcome)) :
      blocks.flatMap Outcome.texts = Outcome.texts blocks.flatten := by
    induction blocks with
    | nil => rfl
    | cons block rest ih => simp [ih, Outcome.texts]
  rw [texts, flatten_blocks]
  rfl

theorem report_eq_blocks (manifest : Manifest) (options : Options)
    (marked : manifest.candidates ≠ []) :
    manifest.report options = .ofBlocks options (manifest.blocks options.eraseGenerics) := by
  rw [report, if_neg (by simpa using marked), Report.ofBlocks, functions, diagnostics,
    ← flatten_blocks]
  simp only [List.filterMap_flatten, List.map_flatten, List.map_map, List.flatMap_def,
    Function.comp_def]

/-- **Runs consist of blocks**, one for each declaration in manifest order. -/
theorem runsInBlocks (manifest : Manifest) (options : Options) :
    manifest.RunsInBlocks options (manifest.blocks options.eraseGenerics) where
  idle unmarked _ _ _ sink :=
    manifest.run_unmarked options sink ((manifest.flatten_blocks_eq_nil_iff _).mp unmarked)
  busy hasBlocks _ _ _ sink := by
    have marked := mt (manifest.flatten_blocks_eq_nil_iff _).mpr hasBlocks
    rw [manifest.run_eq_deliver options sink marked, chunks_eq_blocks,
      report_eq_blocks manifest options marked]

/-- A declaration has the same block in any order of the declarations. -/
theorem block_of_perm (distinct : first.Distinct)
    (same : second.declarations.Perm first.declarations) (erase : Bool) :
    second.block erase = first.block erase := by
  funext origin
  apply List.map_congr_left
  intro target _
  apply outcome_of_found_eq rfl
  rw [find?_of_perm distinct same]

/-- **Isolation of markers.** A marker has the same outcome in two manifests if its two origins
differ in their markers only and so do the declarations found for its target, whatever the rest of
the manifests is. A run puts the outcomes of its markers together, one block for each declaration
in manifest order. So permuting the declarations of a manifest with distinct names, as every
manifest that is read has them, permutes the blocks and changes nothing else. -/
theorem run_isolated (options : Options) :
    (∀ bytes, read bytes = .ok first → first.Distinct) ∧
    (∀ (origin other : Declaration) (target : String), origin.unmarked = other.unmarked →
      (first.find? target).map Declaration.unmarked =
        (second.find? target).map Declaration.unmarked →
      first.outcome options.eraseGenerics ⟨origin, target⟩ =
        second.outcome options.eraseGenerics ⟨other, target⟩) ∧
    first.RunsInBlocks options (first.declarations.map (first.block options.eraseGenerics)) ∧
    second.RunsInBlocks options (second.declarations.map (second.block options.eraseGenerics)) ∧
    (first.Distinct → second.declarations.Perm first.declarations →
      second.RunsInBlocks options
          (second.declarations.map (first.block options.eraseGenerics)) ∧
        (second.blocks options.eraseGenerics).Perm (first.blocks options.eraseGenerics)) := by
  refine ⟨fun _ => distinct_of_read, ?alone, first.runsInBlocks options,
    second.runsInBlocks options, ?permuted⟩
  case alone =>
    intro origin other target sameOrigin found
    exact outcome_of_found_eq sameOrigin found options.eraseGenerics
  case permuted =>
    intro distinct same
    have kept := block_of_perm distinct same options.eraseGenerics
    refine ⟨?_, ?_⟩
    · rw [← kept]
      exact second.runsInBlocks options
    · rw [blocks, blocks, kept]
      exact same.map _

/-- The bytes of a manifest file without declarations. -/
def emptyFile : List UInt8 :=
  Text.Utf8.encode
    "\x7b\"schema_version\":\"modelmap.declarations@0.1.0\",\"declarations\":[]\x7d"

theorem read_emptyFile : read emptyFile = .ok (ofDeclarations []) := by
  have parts : (match read emptyFile with
      | .ok manifest => decide (manifest.schemaVersion = currentVersion) &&
          manifest.declarations.isEmpty
      | .error _ => false) = true := by decide +kernel
  cases found : read emptyFile with
  | error fault => simp [found] at parts
  | ok manifest =>
      obtain ⟨version, declarations⟩ := manifest
      simp only [found, Bool.and_eq_true, decide_eq_true_eq, List.isEmpty_iff] at parts
      obtain ⟨rfl, rfl⟩ := parts
      rfl

/-- A manifest file without declarations is accepted. The two records of the sample change places
and take their blocks along, and a marker of the sample has its outcome also in a manifest in which
it is the only one. -/
theorem run_isolated_sample :
    read emptyFile = .ok (ofDeclarations []) ∧ (ofDeclarations []).Distinct ∧
      (ofDeclarations [sampleTarget, sampleOrigin]).RunsInBlocks .default
        [[], sample.block false sampleOrigin] ∧
      (sample.block false sampleOrigin).length = 2 ∧
      sample.outcome false ⟨sampleOrigin, "app.View"⟩ =
        (ofDeclarations [sampleTarget]).outcome false
          ⟨{ sampleOrigin with mappers := ["app.View"] }, "app.View"⟩ := by
  obtain ⟨names, -, -, -, -⟩ := @run_isolated (ofDeclarations []) sample .default
  obtain ⟨-, -, -, -, permuted⟩ :=
    @run_isolated sample (ofDeclarations [sampleTarget, sampleOrigin]) .default
  obtain ⟨-, alone, -, -, -⟩ := @run_isolated sample (ofDeclarations [sampleTarget]) .default
  have distinct : sample.Distinct := by
    unfold Distinct
    decide
  exact ⟨read_emptyFile, names _ read_emptyFile, (permuted distinct (.swap _ _ [])).1, rfl,
    alone _ _ _ rfl rfl⟩

end Manifest

end RecordMapper
