import CodeGauge.Proofs.Chat.Usage
import CodeGauge.Proofs.Review.Pieces
import CodeGauge.Proofs.Review.Sources
import CodeGauge.Review.Run

/-!
This module contains what a run over the source files below a directory accounts for: each file has
one outcome, a failure ends the questions about its file alone, and what becomes of the first files
depends on these files and on the outcomes of their requests.
-/

namespace CodeGauge.Review

section

variable {σ α : Type} {reviewer : Reviewer σ α} {file : String} {most : Int}
  {bytes : Option (List UInt8)} {state : σ} {total index : Nat} {parts : List (List Char)}
  {asked : String × α} {before after : List (String × α)} {failure : Failure}


theorem reviewOf_of_not_isReply (h : isReply (.error failure) = false) :
    reviewOf (.error failure) = .error failure := by
  unfold reviewOf
  cases failure with
  | unusable => cases h
  | _ => rfl

theorem exists_ask_of_mem_reviewPieces
    (h : asked ∈ (reviewPieces reviewer file total index state parts).asked) :
    ∃ s, asked.2 = (reviewer.ask asked.1 s).1 := by
  induction parts generalizing index state with
  | nil => cases h
  | cons part parts ih =>
    unfold reviewPieces at h
    dsimp only at h
    split at h
    . obtain rfl := List.mem_singleton.1 h
      exact ⟨state, rfl⟩
    . cases List.mem_cons.1 h with
      | inl heq =>
        subst heq
        exact ⟨state, rfl⟩
      | inr hmem => exact ih hmem

/--
A failure is the last answer about a file.
-/
theorem stops_reviewPieces
    (h : (reviewPieces reviewer file total index state parts).asked = before ++ asked :: after)
    (hfailure : reviewOf (reviewer.reply asked.2) = .error failure) :
    after = [] ∧ (reviewPieces reviewer file total index state parts).result = .error failure := by
  induction parts generalizing index state before with
  | nil => simp [reviewPieces] at h
  | cons part parts ih =>
    unfold reviewPieces at h ⊢
    dsimp only at h ⊢
    split at h
    . next hlast =>
      cases before with
      | nil =>
        obtain ⟨rfl, rfl⟩ := List.cons.inj h
        rw [hlast] at hfailure
        cases hfailure
        exact ⟨rfl, rfl⟩
      | cons first before => simp at h
    . next hreview =>
      cases before with
      | nil =>
        obtain ⟨rfl, _⟩ := List.cons.inj h
        rw [hreview] at hfailure
        cases hfailure
      | cons first before =>
        obtain ⟨hafter, hresult⟩ := ih (List.cons.inj h).2
        refine ⟨hafter, ?_⟩
        dsimp only
        rw [hresult]
        rfl

/--
Either nobody is asked about a file, or what is asked and answered is about its pieces. Which of
these it is does not depend on the reviewer.
-/
theorem reviewFile_cases (file : String) (most : Int) (bytes : Option (List UInt8)) :
    (∃ result, ∀ (reviewer : Reviewer σ α) (state : σ),
        reviewFile reviewer file most bytes state = ⟨[], result, state⟩)
      ∨ ∃ parts text, ∀ (reviewer : Reviewer σ α) (state : σ),
        reviewFile reviewer file most bytes state
          =
        let session := reviewPieces reviewer file parts.length 0 state parts
        { session with result := (session.result.bind (assemble file text)).map some } := by
  cases htext : bytes.bind textOf with
  | none =>
    refine .inl ⟨.ok none, ?_⟩
    intro reviewer state
    rw [reviewFile, htext]
  | some text =>
    by_cases hne : text = []
    . refine .inl ⟨.ok none, ?_⟩
      intro reviewer state
      rw [reviewFile, htext, hne]
    . cases hchunks : chunks most text with
      | error failure =>
        refine .inl ⟨.error failure, ?_⟩
        intro reviewer state
        rw [reviewFile_of_text htext hne, reviewText, hchunks]
        rfl
      | ok parts =>
        refine .inr ⟨parts, text, ?_⟩
        intro reviewer state
        exact reviewFile_of_chunks htext hne reviewer file state hchunks

theorem exists_ask_of_mem_reviewFile
    (h : asked ∈ (reviewFile reviewer file most bytes state).asked) :
    ∃ s, asked.2 = (reviewer.ask asked.1 s).1 := by
  obtain ⟨_, hfile⟩ | ⟨_, _, hfile⟩ := reviewFile_cases (σ := σ) (α := α) file most bytes
  . rw [hfile] at h
    cases h
  . rw [hfile] at h
    exact exists_ask_of_mem_reviewPieces h

theorem stops_reviewFile
    (h : (reviewFile reviewer file most bytes state).asked = before ++ asked :: after)
    (hreply : reviewer.reply asked.2 = .error failure) (hnone : isReply (.error failure) = false) :
    after = [] ∧ (reviewFile reviewer file most bytes state).result = .error failure := by
  obtain ⟨_, hfile⟩ | ⟨_, _, hfile⟩ := reviewFile_cases (σ := σ) (α := α) file most bytes
  . rw [hfile] at h
    simp at h
  . rw [hfile] at h ⊢
    obtain ⟨hafter, hresult⟩ := stops_reviewPieces h (by rw [hreply, reviewOf_of_not_isReply hnone])
    dsimp only
    rw [hresult]
    exact ⟨hafter, rfl⟩

end

/--
The text of a file, if it can be read and is in UTF-8.
-/
def Source.text? (source : Source) : Option (List Char) :=
  source.bytes.bind textOf

theorem text?_of_result_none {σ α : Type} {reviewer : Reviewer σ α} {source : Source} {most : Int}
    {state : σ} (h : (reviewFile reviewer source.file most source.bytes state).result = .ok none) :
    (reviewFile reviewer source.file most source.bytes state).asked = []
      ∧ (source.text? = none ∨ source.text? = some []) := by
  unfold reviewFile at h ⊢
  unfold Source.text?
  split at h
  . next htext => exact ⟨rfl, .inl htext⟩
  . next htext => exact ⟨rfl, .inr htext⟩
  . obtain ⟨_, _, heq⟩ := map_eq_ok.1 h
    cases heq

namespace FileRun

/--
The errors that a run writes to the log about a file.
-/
def errors (run : FileRun) : List LogLine :=
  run.logs.filter (·.level == .error)

/--
What becomes of a file, which is one of three things: a review, an error in the log, or neither of
them, and then nobody is asked about the file and nothing is logged. This is left to files that
cannot be read, are not in UTF-8 or are empty.
-/
inductive Settles (source : Source) (run : FileRun) : Prop where
  | reviewed (review : FileReview) (isReview : run.review? = some (.obj review.toFields))
    (file : review.file = source.file) (errors : run.errors = [])
  | failed (failure : Failure) (noReview : run.review? = none)
    (errors : run.errors
      = [.error s!"Error analyzing {source.file}: {failure.message}"])
  | skipped (noReview : run.review? = none) (noCalls : run.calls = []) (noLogs : run.logs = [])
    (text : source.text? = none ∨ source.text? = some [])

end FileRun

section

variable {client : Groq.Client} {most : Int} {state : Groq.State} {source : Source}

/--
The run about a file behind others.
-/
def fileRun (client : Groq.Client) (most : Int) (state : Groq.State) (source : Source) : FileRun :=
  let session := reviewFile (reviewerOf client) source.file most source.bytes state
  ⟨source.file, session.asked, session.result⟩

theorem errors_fileRun (client : Groq.Client) (most : Int) (state : Groq.State) (source : Source) :
    (fileRun client most state source).errors
      =
    match (fileRun client most state source).result with
    | .ok _ => []
    | .error failure => [.error s!"Error analyzing {source.file}: {failure.message}"] := by
  have hcalls : ((fileRun client most state source).calls.flatMap (·.2.logs)).filter
      (·.level == .error) = [] := by
    rw [List.filter_eq_nil_iff]
    intro line hline
    obtain ⟨asked, hasked, hline⟩ := List.mem_flatMap.1 hline
    obtain ⟨s, hs⟩ := exists_ask_of_mem_reviewFile hasked
    rw [hs] at hline
    rw [Groq.level_of_mem_logs hline]
    decide
  unfold FileRun.errors FileRun.logs
  rw [List.filter_append, hcalls, List.nil_append]
  cases (fileRun client most state source).result <;> rfl

theorem settles_fileRun (client : Groq.Client) (most : Int) (state : Groq.State)
    (source : Source) : FileRun.Settles source (fileRun client most state source) := by
  have herrors := errors_fileRun client most state source
  cases hresult : (fileRun client most state source).result with
  | error failure =>
    rw [hresult] at herrors
    exact .failed failure (by rw [FileRun.review?, hresult]) herrors
  | ok review? =>
    rw [hresult] at herrors
    cases review? with
    | some fields =>
      obtain ⟨review, rfl, hfile, _⟩ := exists_of_reviewFile hresult
      exact .reviewed review (by rw [FileRun.review?, hresult]) hfile herrors
    | none =>
      obtain ⟨hasked, htext⟩ := text?_of_result_none hresult
      have hcalls : (fileRun client most state source).calls = [] := hasked
      exact .skipped (by rw [FileRun.review?, hresult]) hcalls
        (by rw [FileRun.logs, hcalls, hresult]; rfl) htext

/--
A failure to answer is the last thing about its file, which has no review then.
-/
theorem stops_fileRun {before after : List (String × Groq.Call)} {prompt : String}
    {call : Groq.Call} {failure : Failure}
    (h : (fileRun client most state source).calls = before ++ (prompt, call) :: after)
    (hcall : call.result = .error failure) (hnone : isReply (.error failure) = false) :
    after = [] ∧ (fileRun client most state source).result = .error failure :=
  stops_reviewFile h hcall hnone

end

/--
Whether the next outcomes that two states hold are the same, as many of them as given.
-/
def SameNext (n : Nat) (state state' : Groq.State) : Prop :=
  state'.wire.take n = state.wire.take n

/--
The number of requests in calls of the service.
-/
def requestsIn (calls : List (String × Groq.Call)) : Nat :=
  (calls.map fun call => call.2.requests.length).sum

theorem requestsIn_cons (call : String × Groq.Call) (calls : List (String × Groq.Call)) :
    requestsIn (call :: calls) = call.2.requests.length + requestsIn calls := by
  rfl

theorem length_prompts (run : FileRun) : run.prompts.length = requestsIn run.calls := by
  simp [FileRun.prompts, requestsIn, List.length_flatMap]

namespace SameNext

variable {client : Groq.Client} {most : Int} {m n : Nat} {state state' : Groq.State}

theorem mono (h : SameNext n state state') (hle : m ≤ n) : SameNext m state state' := by
  have hmin : min m n = m := Nat.min_eq_left hle
  unfold SameNext at h ⊢
  rw [← hmin, ← List.take_take, ← List.take_take, h]

theorem drop {after after' : Groq.State} (h : SameNext (n + m) state state')
    (hafter : after.wire = state.wire.drop n) (hafter' : after'.wire = state'.wire.drop n) :
    SameNext m after after' := by
  unfold SameNext at h ⊢
  rw [hafter, hafter', List.take_drop, List.take_drop, h]

/--
A prompt comes to the same in two states that agree on the outcomes it takes, and leaves them alike.
-/
theorem complete (client : Groq.Client) (prompt system : String)
    (h : SameNext ((client.complete prompt system state).1.requests.length + m) state state') :
    (client.complete prompt system state').1 = (client.complete prompt system state).1
      ∧ SameNext m (client.complete prompt system state).2
        (client.complete prompt system state').2 := by
  have hcall := Groq.complete_eq_of_take_eq client prompt system (h.mono (Nat.le_add_right _ _))
  have hafter' := (Groq.complete_consumes client prompt system state').wire
  rw [hcall] at hafter'
  exact ⟨hcall, h.drop (Groq.complete_consumes client prompt system state).wire hafter'⟩

theorem reviewPieces {file : String} {total index : Nat} {parts : List (List Char)}
    (h : SameNext (requestsIn
      (Review.reviewPieces (reviewerOf client) file total index state parts).asked + m)
      state state') :
    let session := Review.reviewPieces (reviewerOf client) file total index state parts
    let session' := Review.reviewPieces (reviewerOf client) file total index state' parts
    session'.asked = session.asked ∧ session'.result = session.result
      ∧ SameNext m session.state session'.state := by
  induction parts generalizing index state state' with
  | nil =>
    refine ⟨rfl, rfl, h.mono (Nat.le_add_left _ _)⟩
  | cons part parts ih =>
    unfold Review.reviewPieces at h ⊢
    dsimp only [reviewerOf] at h ⊢
    split at h
    -- The same reply stops both, so that the outcomes of later pieces need not agree.
    . next failure hfailure =>
      rw [requestsIn_cons, Nat.add_assoc] at h
      obtain ⟨hcall, hnext⟩ := h.complete
      rw [hcall, hfailure]
      exact ⟨rfl, rfl, hnext.mono (Nat.le_add_left _ _)⟩
    . next review hreview =>
      rw [requestsIn_cons, Nat.add_assoc] at h
      obtain ⟨hcall, hnext⟩ := h.complete
      obtain ⟨hasked, hresult, hlast⟩ := ih hnext
      rw [hcall, hreview]
      dsimp only [reviewerOf] at hasked hresult hlast ⊢
      rw [hasked, hresult]
      exact ⟨rfl, rfl, hlast⟩

theorem reviewFile {file : String} {bytes : Option (List UInt8)}
    (h : SameNext (requestsIn
      (Review.reviewFile (reviewerOf client) file most bytes state).asked + m) state state') :
    let session := Review.reviewFile (reviewerOf client) file most bytes state
    let session' := Review.reviewFile (reviewerOf client) file most bytes state'
    session'.asked = session.asked ∧ session'.result = session.result
      ∧ SameNext m session.state session'.state := by
  obtain ⟨_, hfile⟩ | ⟨_, _, hfile⟩ :=
    reviewFile_cases (σ := Groq.State) (α := Groq.Call) file most bytes
  . rw [hfile] at h
    rw [hfile, hfile]
    exact ⟨rfl, rfl, h.mono (Nat.le_add_left _ _)⟩
  . rw [hfile] at h
    obtain ⟨hasked, hresult, hnext⟩ := SameNext.reviewPieces h
    rw [hfile, hfile]
    dsimp only
    rw [hasked, hresult]
    exact ⟨rfl, rfl, hnext⟩

/--
The first files of two lists in two states. It makes no difference which files are behind them, or
what has been in the account.
-/
theorem take_runFiles {k : Nat} {sources sources' : List Source}
    (hsources : sources'.take k = sources.take k)
    (h : SameNext
      (((runFiles client most state sources).1.take k).flatMap FileRun.prompts).length
      state state') :
    (runFiles client most state' sources').1.take k
      =
    (runFiles client most state sources).1.take k := by
  -- Over the files: what the first one takes off the agreed outcomes leaves enough for the others.
  induction k generalizing sources sources' state state' with
  | zero => rfl
  | succ k ih =>
    cases sources with
    | nil =>
      cases sources' with
      | nil => rfl
      | cons source' sources' => cases hsources
    | cons source sources =>
      cases sources' with
      | nil => cases hsources
      | cons source' sources' =>
        obtain ⟨rfl, htail⟩ := List.cons.inj hsources
        unfold runFiles at h ⊢
        dsimp only [List.take_succ_cons] at h ⊢
        rw [List.flatMap_cons, List.length_append, length_prompts] at h
        obtain ⟨hasked, hresult, hnext⟩ := SameNext.reviewFile h
        rw [hasked, hresult, ih htail hnext]

end SameNext

section

variable {client : Groq.Client} {most : Int} {wire : List Groq.Outcome} {sources : List Source}
  {runs : List FileRun} {run : FileRun} {state : Groq.State}

theorem forall₂_settles (client : Groq.Client) (most : Int) (state : Groq.State)
    (sources : List Source) :
    List.Forall₂ FileRun.Settles sources (runFiles client most state sources).1 := by
  induction sources generalizing state with
  | nil => exact .nil
  | cons source sources ih => exact .cons (settles_fileRun client most state source) (ih _)

theorem exists_of_mem_runs (h : run ∈ (runFiles client most state sources).1) :
    ∃ state source, run = fileRun client most state source := by
  induction sources generalizing state with
  | nil => cases h
  | cons source sources ih =>
    cases List.mem_cons.1 h with
    | inl heq => exact ⟨state, source, heq⟩
    | inr hmem => exact ih hmem

/--
The reviews of files are about some of them, in the same order.
-/
theorem exists_sublist_of_settles (h : List.Forall₂ FileRun.Settles sources runs) :
    ∃ files : List String, files.Sublist (sources.map Source.file)
      ∧ (runs.filterMap FileRun.review?).map (·.get? "file")
        = files.map fun file => some (.str file) := by
  induction h with
  | nil => exact ⟨[], .slnil, rfl⟩
  | @cons source run sources runs hsettles _ ih =>
    obtain ⟨files, hfiles, hreviews⟩ := ih
    have hskip : run.review? = none → ((run :: runs).filterMap FileRun.review?).map (·.get? "file")
        = files.map fun file => some (.str file) := by
      intro hnone
      rw [List.filterMap_cons_none hnone, hreviews]
    cases hsettles with
    | reviewed review hreview hfile _ =>
      refine ⟨source.file :: files, hfiles.cons_cons _, ?_⟩
      rw [List.filterMap_cons_some hreview, List.map_cons, hreviews, List.map_cons, ← hfile]
      rfl
    | failed _ hnone _ => exact ⟨files, hfiles.cons _, hskip hnone⟩
    | skipped hnone _ _ _ => exact ⟨files, hfiles.cons _, hskip hnone⟩

end

/--
The line about a file before it is reviewed.
-/
def announcement (source : Source) : String :=
  s!"Analyzing: {source.file}"

/--
What becomes of files that a client reviews with a fresh account.
-/
def freshRuns (client : Groq.Client) (most : Int) (wire : List Groq.Outcome)
    (sources : List Source) : List FileRun :=
  (runFiles client most { wire := wire } sources).1

/--
What is seen of a run over files. They are announced in their order, and the reviews of all of them
are reported on.
-/
structure Shows (client : Groq.Client) (root : String) (sources : List Source)
    (runs : List FileRun) (outcome : Outcome) : Prop where
  output : outcome.output
    =
    let reviews := runs.filterMap FileRun.review?
    if sources.isEmpty then
      "No source files found.\n"
    else
      Printed.text ⟨[s!"AI Code Analysis using model={client.model}", s!"Scanning: {root}"]
        ++ sources.map announcement
        ++ (if reviews.isEmpty then [] else (report reviews).lines), none⟩
  prompts : outcome.prompts = runs.flatMap FileRun.prompts
  errors : outcome.logs.filter (·.level == .error) = runs.flatMap FileRun.errors

/--
What a run accounts for, of files that a client reviews with a fresh account.
-/
structure Accounts (client : Groq.Client) (most : Int) (wire : List Groq.Outcome)
    (sources : List Source) : Prop where
  /-- No file is announced twice. -/
  distinct : (sources.map Source.file).Nodup
  settles : List.Forall₂ FileRun.Settles sources (freshRuns client most wire sources)
  /-- The files with a review are some of those announced, each of them once. -/
  reviews : ∃ files : List String, files.Sublist (sources.map Source.file) ∧ files.Nodup
    ∧ ((freshRuns client most wire sources).filterMap FileRun.review?).map (·.get? "file")
      = files.map fun file => some (.str file)
  /-- A failure to reply is the last thing about its file, which has no review then. -/
  stops : ∀ run ∈ freshRuns client most wire sources, ∀ before prompt call after failure,
    run.calls = before ++ (prompt, call) :: after → call.result = .error failure
      → isReply (.error failure) = false → after = [] ∧ run.review? = none
  /-- The first files depend on no other file, and on no outcome but those of their requests. -/
  first : ∀ k sources' wire', sources'.take k = sources.take k
    → (let sent := ((freshRuns client most wire sources).take k).flatMap FileRun.prompts
      wire'.take sent.length = wire.take sent.length)
    → (freshRuns client most wire' sources').take k = (freshRuns client most wire sources).take k

section

variable {client : Groq.Client} {root : String} {most : Int} {wire : List Groq.Outcome}
  {sources : List Source}

theorem accounts_of_distinct (hdistinct : (sources.map Source.file).Nodup) :
    Accounts client most wire sources where
  distinct := hdistinct
  settles := forall₂_settles client most _ sources
  reviews := by
    obtain ⟨files, hfiles, hreviews⟩ :=
      exists_sublist_of_settles (forall₂_settles client most { wire := wire } sources)
    exact ⟨files, hfiles, hdistinct.sublist hfiles, hreviews⟩
  stops := by
    intro run hrun before prompt call after failure hcalls hcall hnone
    obtain ⟨state, source, rfl⟩ := exists_of_mem_runs hrun
    obtain ⟨hafter, hresult⟩ := stops_fileRun hcalls hcall hnone
    exact ⟨hafter, by rw [FileRun.review?, hresult]⟩
  first := fun _ _ _ hsources hwire => SameNext.take_runFiles hsources hwire

theorem shows_runOver (hne : sources ≠ []) :
    Shows client root sources (freshRuns client most wire sources)
      (runOver client root most wire sources) where
  output := by
    have hempty : ¬ sources.isEmpty = true := by simpa using hne
    unfold runOver freshRuns
    dsimp only
    rw [if_neg hempty]
    congr 2
    split <;> rfl
  prompts := rfl
  errors := by
    unfold runOver
    dsimp only
    rw [List.filter_append, List.filter_flatMap]
    exact List.append_nil _

end

theorem create_of_key {settings : Settings} (h : settings.groqKey.isEmpty = false) :
    Groq.Client.create none none settings = .ok ⟨settings.groqKey, settings.groqModel⟩ := by
  unfold Groq.Client.create
  dsimp only
  rw [h]
  rfl

theorem nodup_sourcesBelow {tree : Tree} (h : tree.WellNamed) (base : String) (path : Path) :
    ((sourcesBelow tree base path).map Source.file).Nodup := by
  unfold sourcesBelow
  cases hat : tree.at? path with
  | none => exact List.nodup_nil
  | some below =>
    have htexts := Tree.nodup_map_text_sources h hat
    have hbehind : Function.Injective fun text => base ++ "/" ++ text :=
      fun _ _ => (String.append_right_inj _).1
    dsimp only
    rw [List.map_map]
    rw [← List.nodup_map_iff hbehind, List.map_map] at htexts
    exact htexts

theorem run_of_sources {settings : Settings} {tree : Tree} {base : String} {path : Path}
    {most : Int} {wire : List Groq.Outcome} (hkey : settings.groqKey.isEmpty = false)
    (hne : sourcesBelow tree base path ≠ []) :
    run settings tree base (some path) most wire
      =
    runOver ⟨settings.groqKey, settings.groqModel⟩
      (if path.isEmpty then base else base ++ "/" ++ Path.text path) most wire
      (sourcesBelow tree base path) := by
  unfold run
  rw [hkey, create_of_key hkey]
  cases hsources : sourcesBelow tree base path with
  | nil => exact (hne hsources).elim
  | cons source sources =>
    dsimp only [Option.map_some]
    rw [hsources]
    rfl

theorem run_of_no_sources {settings : Settings} {tree : Tree} {base : String} {path : Path}
    {most : Int} {wire : List Groq.Outcome} (hkey : settings.groqKey.isEmpty = false)
    (hnil : sourcesBelow tree base path = []) :
    run settings tree base (some path) most wire = run.nothingFound := by
  unfold run
  rw [hkey]
  dsimp only [Option.map_some]
  rw [hnil]
  rfl

/--
A run with a key announces each source file below a directory once and in order, and each of them
has one outcome: a review, an error in the log, or nothing at all if there is no text in it. The
reviews are in the order of the files. A failure to reply ends the questions about its file and
leaves it without a review, and the files behind do not affect those before them.
-/
theorem run_accounts (settings : Settings) (tree : Tree) (base : String) (path : Path) (most : Int)
    (wire : List Groq.Outcome) (hkey : settings.groqKey.isEmpty = false) (htree : tree.WellNamed) :
    let client : Groq.Client := ⟨settings.groqKey, settings.groqModel⟩
    let root := if path.isEmpty then base else base ++ "/" ++ Path.text path
    let sources := sourcesBelow tree base path
    Shows client root sources (freshRuns client most wire sources)
        (run settings tree base (some path) most wire)
      ∧ Accounts client most wire sources := by
  intro client root sources
  refine ⟨?_, accounts_of_distinct (nodup_sourcesBelow htree base path)⟩
  by_cases hne : sourcesBelow tree base path = []
  . rw [run_of_no_sources hkey hne, show sources = [] from hne]
    exact ⟨rfl, rfl, rfl⟩
  . rw [run_of_sources hkey hne]
    exact shows_runOver hne

/--
A directory with a file that has a text, one below it with a file that is empty and with one that
cannot be read, and one that cannot be listed.
-/
def smallTree : Tree :=
  .dir [
    ("b", .dir [("d.ts", .file none), ("c.js", .file (some []))]),
    ("e", .closed),
    ("a.py", .file (some (Text.Utf8.encode "import os")))]

theorem run_accounts_small :
    let settings : Settings := { groqKey := "key" }
    let sources := sourcesBelow smallTree "/src" []
    settings.groqKey.isEmpty = false ∧ smallTree.WellNamed
      ∧ Shows ⟨"key", settings.groqModel⟩ "/src" sources
          (freshRuns ⟨"key", settings.groqModel⟩ 8000 [] sources)
          (run settings smallTree "/src" (some []) 8000 [])
      ∧ Accounts ⟨"key", settings.groqModel⟩ 8000 [] sources := by
  intro settings sources
  have hkey : settings.groqKey.isEmpty = false := by rfl
  have htree : smallTree.WellNamed := by decide +kernel
  exact ⟨hkey, htree, run_accounts settings smallTree "/src" [] 8000 [] hkey htree⟩

end CodeGauge.Review
