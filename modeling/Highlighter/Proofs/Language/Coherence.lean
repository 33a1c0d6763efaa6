import Highlighter.Proofs.Language.Resolution

/-!
# The cache of a registry is coherent

A registry is asked to register grammars, to add search paths and to load languages. While the files
stay as they are, what it has compiled is what it would compile now (`Registry.Coherent`): a grammar
enters the cache when it is compiled, and the cache is cleared when the search paths change. So
loading gives what a registry without a cache gives. Whatever happens to the files, a language that
was loaded stays at hand (`Registry.AtHand`) until a search path is added or it is registered anew.
-/

namespace Highlighter.Registry

/-- What may be asked of a registry. -/
inductive Request where
  | register (name : String) (table : Table)
  | addSearchPath (path : String)
  | load (name : String)

namespace Request

/-- The grammar that a request registers for a language. -/
def registers? (name : String) : Request → Option Table
  | .register other table => if other = name then some table else none
  | _ => none

/-- The directory that a request adds to the search paths. -/
def adds? : Request → Option String
  | .addSearchPath path => some path
  | _ => none

/-- Whether a request loads a language. -/
def isLoad : Request → Bool
  | .load _ => true
  | _ => false

/-- The requests that load nothing. -/
def withoutLoads (requests : List Request) : List Request := requests.filter fun q => !q.isLoad

/-- The grammar that requests register last for a language. -/
def latest? (name : String) (requests : List Request) : Option Table :=
  (requests.filterMap (registers? name)).getLast?

/-- The search paths that requests add, in their order. -/
def searchPaths (requests : List Request) : List String := requests.filterMap adds?

end Request

/-- The registry that a request leaves, with the files as they are. -/
def serve (r : Registry) (files : FileSystem) : Request → Registry
  | .register name table => r.register name table
  | .addSearchPath path => r.addSearchPath path
  | .load name => (r.load files name).registry

/-- The registry that requests leave one after the other, each with the files as they are then. -/
def run : Registry → List (FileSystem × Request) → Registry
  | r, [] => r
  | r, (files, request) :: more => run (r.serve files request) more

/-! ## Loading -/

/-- What loading a language may give and leave. -/
inductive Loads (r : Registry) (files : FileSystem) (name : String) :
    Except LoadError SharedTable → Registry → Prop where
  | refused :
    ¬ LanguageName name →
    Loads r files name (.error (.unknownLanguage name)) r
  | registered {t : SharedTable} :
    LanguageName name →
    r.registered.lookup name = some t →
    Loads r files name (.ok t) r
  | cached {t : SharedTable} :
    LanguageName name →
    r.registered.lookup name = none →
    r.compiled.lookup name = some t →
    Loads r files name (.ok t) r
  | compiled {table : Table} :
    LanguageName name →
    r.registered.lookup name = none →
    r.compiled.lookup name = none →
    (r.compile files name).1 = .ok table →
    Loads r files name (.ok ⟨r.made, table⟩)
      { r with compiled := (name, ⟨r.made, table⟩) :: r.compiled, made := r.made + 1 }
  | failed {e : LoadError} :
    LanguageName name →
    r.registered.lookup name = none →
    r.compiled.lookup name = none →
    (r.compile files name).1 = .error e →
    Loads r files name (.error e) r

/-- Loading goes one of these ways. -/
lemma loads_load (r : Registry) (files : FileSystem) (name : String) :
    r.Loads files name (r.load files name).result (r.load files name).registry := by
  unfold load
  split
  · next bad =>
    refine .refused fun plain => ?_
    rw [isLanguageName_iff.2 plain] at bad
    cases bad
  · next good =>
    have plain : LanguageName name := isLanguageName_iff.1 (by simpa using good)
    split
    · next t found => exact .registered plain found
    · next unregistered =>
      split
      · next t found => exact .cached plain unregistered found
      · next missing =>
        split
        · next table events made =>
          exact .compiled plain unregistered missing (congrArg Prod.fst made)
        · next e events made =>
          exact .failed plain unregistered missing (congrArg Prod.fst made)

/-- Loading leaves the registered grammars and the search paths as they are. -/
lemma Loads.unchanged {r r' : Registry} {files : FileSystem} {name : String}
    {result : Except LoadError SharedTable} (h : r.Loads files name result r') :
    r'.registered = r.registered ∧ r'.searchPaths = r.searchPaths := by
  cases h <;> exact ⟨rfl, rfl⟩

/-! ## What requests register and add -/

/-- A request adds at most one search path. -/
lemma searchPaths_serve (r : Registry) (files : FileSystem) (request : Request) :
    (r.serve files request).searchPaths = r.searchPaths ++ request.adds?.toList := by
  cases request with
  | register name table => simp [serve, register, Request.adds?]
  | addSearchPath path => simp [serve, addSearchPath, Request.adds?]
  | load name => simp [serve, Request.adds?, (loads_load r files name).unchanged.2]

/-- Requests add their search paths one by one. -/
lemma searchPaths_run (r : Registry) (requests : List (FileSystem × Request)) :
    (r.run requests).searchPaths
      = r.searchPaths ++ Request.searchPaths (requests.map Prod.snd) := by
  induction requests generalizing r with
  | nil => simp [run, Request.searchPaths]
  | cons first requests ih =>
    obtain ⟨files, request⟩ := first
    rw [run, ih, searchPaths_serve]
    cases h : request.adds? <;> simp [Request.searchPaths, h]

/-- What is registered for a language. -/
def registered? (r : Registry) (name : String) : Option Table :=
  (r.registered.lookup name).map SharedTable.table

/-- A request registers a grammar for a language, or leaves the one that there was. -/
lemma registered?_serve (r : Registry) (files : FileSystem) (request : Request) (name : String) :
    (r.serve files request).registered? name
      = (request.registers? name).or (r.registered? name) := by
  cases request with
  | register other table =>
    simp only [serve, register, registered?, List.lookup_cons, Request.registers?]
    by_cases same : other = name
    · simp [same]
    · have differ : (name == other) = false := beq_false_of_ne (Ne.symm same)
      simp [same, differ]
  | addSearchPath path => rfl
  | load other =>
    rw [serve, registered?, (loads_load r files other).unchanged.1]
    rfl

/-- Of the grammars that requests register for a language the last one counts. -/
lemma registered?_run (r : Registry) (requests : List (FileSystem × Request)) (name : String) :
    (r.run requests).registered? name
      = (Request.latest? name (requests.map Prod.snd)).or (r.registered? name) := by
  induction requests generalizing r with
  | nil => rfl
  | cons first requests ih =>
    obtain ⟨files, request⟩ := first
    rw [run, ih, registered?_serve, List.map_cons, Request.latest?, Request.latest?]
    cases h : request.registers? name with
    | none => simp [h]
    | some table =>
      rw [List.filterMap_cons_some h, List.getLast?_cons]
      cases (List.filterMap (Request.registers? name) (requests.map Prod.snd)).getLast? <;> rfl

/-- After requests that all find the same files, a grammar is registered if one of them did that. -/
lemma registered?_run_empty (files : FileSystem) (requests : List Request) (name : String) :
    (empty.run (requests.map (files, ·))).registered? name = Request.latest? name requests := by
  rw [registered?_run, List.map_map]
  exact (Option.or_none).trans (congrArg _ (List.map_id requests))

/-- The search paths are then those that the requests have added. -/
lemma searchPaths_run_empty (files : FileSystem) (requests : List Request) :
    (empty.run (requests.map (files, ·))).searchPaths = Request.searchPaths requests := by
  rw [searchPaths_run, List.map_map]
  exact congrArg Request.searchPaths (List.map_id requests)

/-! ## Coherence -/

/-- All that is in the cache is what compiling gives, with the files as they are. -/
def Coherent (r : Registry) (files : FileSystem) : Prop :=
  ∀ name t, r.compiled.lookup name = some t → (r.compile files name).1 = .ok t.table

/-- Compiling depends on the search paths only. -/
lemma compile_congr (r r' : Registry) (same : r.searchPaths = r'.searchPaths) (files : FileSystem)
    (name : String) : r.compile files name = r'.compile files name := by
  unfold compile file? candidates
  rw [same]

/-- A registry that has loaded nothing is coherent. -/
lemma coherent_empty (files : FileSystem) : empty.Coherent files := by
  intro name t found
  cases found

/-- A request leaves a coherent cache. -/
lemma Coherent.serve {r : Registry} {files : FileSystem} (h : r.Coherent files)
    (request : Request) : (r.serve files request).Coherent files := by
  cases request with
  | register name table =>
    intro other t found
    exact h other t found
  | addSearchPath path =>
    intro other t found
    cases found
  | load name =>
    have loads := loads_load r files name
    rw [Registry.serve]
    generalize (r.load files name).result = result at loads
    generalize (r.load files name).registry = left at loads ⊢
    cases loads with
    | refused | registered | cached | failed => exact h
    | @compiled table plain unregistered missing made =>
      intro other t found
      rw [List.lookup_cons] at found
      by_cases same : other = name
      · subst same
        rw [beq_self_eq_true] at found
        cases found
        exact made
      · rw [beq_false_of_ne same] at found
        exact h other t found

/-- Requests keep a registry coherent while the files stay the same. -/
lemma Coherent.run {r : Registry} {files : FileSystem} (h : r.Coherent files)
    (requests : List Request) : (r.run (requests.map (files, ·))).Coherent files := by
  induction requests generalizing r with
  | nil => exact h
  | cons request requests ih => exact ih (h.serve request)

/-- What a registry without a cache gives for a language. -/
def answer (r : Registry) (files : FileSystem) (name : String) : Except LoadError Table :=
  if isLanguageName name then
    match r.registered? name with
    | some table => .ok table
    | none => (r.compile files name).1
  else .error (.unknownLanguage name)

/-- With a coherent cache, loading gives what a registry without a cache gives. -/
lemma Coherent.load_eq {r : Registry} {files : FileSystem} (h : r.Coherent files) (name : String) :
    (r.load files name).result.map SharedTable.table = r.answer files name := by
  have loads := loads_load r files name
  generalize (r.load files name).result = result at loads ⊢
  generalize (r.load files name).registry = left at loads
  unfold answer registered?
  cases loads with
  | refused bad => rw [if_neg (mt isLanguageName_iff.1 bad)]; rfl
  | registered plain found => rw [if_pos (isLanguageName_iff.2 plain), found]; rfl
  | @cached t plain unregistered found =>
    rw [if_pos (isLanguageName_iff.2 plain), unregistered, Option.map_none]
    exact (h name t found).symm
  | compiled plain unregistered _ made =>
    rw [if_pos (isLanguageName_iff.2 plain), unregistered, Option.map_none]
    exact made.symm
  | failed plain unregistered _ made =>
    rw [if_pos (isLanguageName_iff.2 plain), unregistered, Option.map_none]
    exact made.symm

/-- What a registry without a cache gives resolves the language. -/
lemma resolves_answer (r : Registry) (files : FileSystem) (name : String) :
    Resolves files (r.registered? name) r.searchPaths name (r.answer files name) := by
  unfold answer
  split
  · next good =>
    have plain := isLanguageName_iff.1 good
    cases found : r.registered? name with
    | some table => exact .registered plain rfl
    | none => exact resolves_compile plain
  · next bad => exact .refused (mt isLanguageName_iff.2 bad)

/-- The answer depends on what is registered for the language and on the search paths. -/
lemma answer_congr (r r' : Registry) (files : FileSystem) (name : String)
    (registered : r.registered? name = r'.registered? name)
    (paths : r.searchPaths = r'.searchPaths) : r.answer files name = r'.answer files name := by
  rw [answer, answer, registered, compile_congr r r' paths]

/-! ## Tables at hand -/

/-- Loading a language gives a table without looking at any file. -/
structure AtHand (r : Registry) (name : String) (t : SharedTable) : Prop where
  plain : LanguageName name
  found : r.registered.lookup name = some t ∨
    r.registered.lookup name = none ∧ r.compiled.lookup name = some t

/-- A language that was loaded is at hand. -/
lemma atHand_of_load {r : Registry} {files : FileSystem} {name : String} {t : SharedTable}
    (loaded : (r.load files name).result = .ok t) : (r.load files name).registry.AtHand name t := by
  have loads := loads_load r files name
  rw [loaded] at loads
  generalize (r.load files name).registry = left at loads ⊢
  cases loads with
  | registered plain found => exact ⟨plain, .inl found⟩
  | cached plain unregistered found => exact ⟨plain, .inr ⟨unregistered, found⟩⟩
  | compiled plain unregistered _ _ =>
    exact ⟨plain, .inr ⟨unregistered, by rw [List.lookup_cons, beq_self_eq_true]⟩⟩

/-- A language at hand is loaded as the table that there is. -/
lemma AtHand.load {r : Registry} {name : String} {t : SharedTable} (h : r.AtHand name t)
    (files : FileSystem) : (r.load files name).result = .ok t := by
  have good := isLanguageName_iff.2 h.plain
  rcases h.found with found | ⟨unregistered, found⟩
  · simp [Registry.load, good, found]
  · simp [Registry.load, good, unregistered, found]

/-- A request that neither adds a search path nor registers the language leaves it at hand. -/
lemma AtHand.serve {r : Registry} {name : String} {t : SharedTable} (h : r.AtHand name t)
    (files : FileSystem) {request : Request} (path : request.adds? = none)
    (other : request.registers? name = none) : (r.serve files request).AtHand name t := by
  cases request with
  | register language table =>
    have differ : language ≠ name := by
      rintro rfl
      simp [Request.registers?] at other
    have lookup : (r.serve files (.register language table)).registered.lookup name
        = r.registered.lookup name := by
      rw [Registry.serve, register, List.lookup_cons, beq_false_of_ne differ.symm]
    exact ⟨h.plain, lookup ▸ h.found⟩
  | addSearchPath directory => cases path
  | load language =>
    have loads := loads_load r files language
    rw [Registry.serve]
    generalize (r.load files language).result = result at loads
    generalize (r.load files language).registry = left at loads ⊢
    cases loads with
    | refused | registered | cached | failed => exact h
    | @compiled table _ unregistered missing _ =>
      refine ⟨h.plain, h.found.imp_right fun ⟨unregistered, found⟩ => ⟨unregistered, ?_⟩⟩
      -- what is compiled now was missing, so it is another language
      have differ : name ≠ language := by
        rintro rfl
        rw [missing] at found
        cases found
      rw [List.lookup_cons, beq_false_of_ne differ]
      exact found

/-- A language stays at hand while it is not registered and no search path is added. -/
lemma AtHand.run {r : Registry} {name : String} {t : SharedTable} (h : r.AtHand name t)
    {requests : List (FileSystem × Request)}
    (quiet : ∀ q ∈ requests, q.2.adds? = none ∧ q.2.registers? name = none) :
    (r.run requests).AtHand name t := by
  induction requests generalizing r with
  | nil => exact h
  | cons first requests ih =>
    obtain ⟨⟨path, other⟩, later⟩ := List.forall_mem_cons.1 quiet
    exact ih (h.serve first.1 path other) later

/-! ## Registries that have loaded nothing -/

/-- Loading registers nothing. -/
lemma Request.latest?_withoutLoads (name : String) (requests : List Request) :
    latest? name (withoutLoads requests) = latest? name requests := by
  rw [latest?, latest?, withoutLoads, List.filterMap_filter]
  refine congrArg List.getLast? (List.filterMap_congr fun request _ => ?_)
  cases request <;> rfl

/-- Loading adds no search path. -/
lemma Request.searchPaths_withoutLoads (requests : List Request) :
    searchPaths (withoutLoads requests) = searchPaths requests := by
  rw [searchPaths, searchPaths, withoutLoads, List.filterMap_filter]
  refine List.filterMap_congr fun request _ => ?_
  cases request <;> rfl

/-- Without loading the cache stays empty. -/
lemma compiled_run {r : Registry} (none : r.compiled = []) {requests : List (FileSystem × Request)}
    (idle : ∀ q ∈ requests, q.2.isLoad = false) : (r.run requests).compiled = [] := by
  induction requests generalizing r with
  | nil => exact none
  | cons first requests ih =>
    obtain ⟨files, request⟩ := first
    obtain ⟨here, later⟩ := List.forall_mem_cons.1 idle
    refine ih ?_ later
    cases request with
    | register name table => exact none
    | addSearchPath path => rfl
    | load name => cases here

/--
Whatever has been asked of a registry while the files were the same, loading a language gives what a
registry gives that got the same grammars and search paths and has loaded nothing yet: an error for
what cannot be a name, the grammar registered last, that of the first file on the search paths or
what is wrong with it, the built-in one, or an error. Even if the files change, a language that was
loaded gives the same shared table again, as long as no search path is added and the language is not
registered.
-/
theorem load_coherent :
    (∀ (files : FileSystem) (requests : List Request) (name : String),
      (empty.run ((Request.withoutLoads requests).map (files, ·))).compiled = [] ∧
      ((empty.run (requests.map (files, ·))).load files name).result.map SharedTable.table
        = ((empty.run ((Request.withoutLoads requests).map (files, ·))).load files name).result.map
            SharedTable.table ∧
      Resolves files (Request.latest? name requests) (Request.searchPaths requests) name
        (((empty.run (requests.map (files, ·))).load files name).result.map SharedTable.table)) ∧
    (∀ (before between : List (FileSystem × Request)) (files files' : FileSystem) (name : String)
      (t : SharedTable),
      ((empty.run before).load files name).result = .ok t →
      (∀ q ∈ between, q.2.adds? = none ∧ q.2.registers? name = none) →
      ((((empty.run before).load files name).registry.run between).load files' name).result
        = .ok t) := by
  constructor
  · intro files requests name
    have coherent := fun qs => (coherent_empty files).run qs
    refine ⟨compiled_run rfl ?_, ?_, ?_⟩
    · intro q hq
      obtain ⟨request, hrequest, rfl⟩ := List.mem_map.1 hq
      simpa using (List.mem_filter.1 hrequest).2
    · rw [(coherent requests).load_eq, (coherent _).load_eq]
      apply answer_congr
      · rw [registered?_run_empty, registered?_run_empty, Request.latest?_withoutLoads]
      · rw [searchPaths_run_empty, searchPaths_run_empty, Request.searchPaths_withoutLoads]
    · rw [(coherent requests).load_eq, ← registered?_run_empty files,
        ← searchPaths_run_empty files]
      exact resolves_answer _ files name
  · intro before between files files' name t loaded quiet
    exact ((atHand_of_load loaded).run quiet).load files'

/-- A built-in grammar is loaded again as the same table, though files have appeared meanwhile. -/
theorem load_coherent_appeared :
    let missing : FileSystem := fun _ => .error .notFound
    let appeared : FileSystem := fun _ => .ok (.file ⟨#[]⟩)
    let r := empty.run [(missing, .addSearchPath "grammars")]
    ∃ t, (r.load missing "url").result = .ok t ∧
      (((r.load missing "url").registry.run
        [(appeared, .load "../url"), (appeared, .register "c" ⟨none, [[]], by decide⟩)]).load
          appeared "url").result = .ok t := by
  intro missing appeared r
  have mem : ("url", Builtin.url) ∈ Builtin.all := by simp [Builtin.all]
  obtain ⟨table, compiled⟩ := Builtin.exists_compile mem
  have loaded : (r.load missing "url").result = .ok ⟨0, named "url" table⟩ := by
    have good : isLanguageName "url" = true := by decide
    have unregistered : r.registered.lookup "url" = none := rfl
    have uncached : r.compiled.lookup "url" = none := rfl
    have noFile : r.file? missing "url" = none := rfl
    have builtIn : Builtin.all.lookup "url" = some Builtin.url := by decide
    simp only [load, good, unregistered, uncached, compile, noFile, builtIn, compiled]
    rfl
  refine ⟨_, loaded, load_coherent.2 [(missing, .addSearchPath "grammars")] _ missing appeared
    "url" _ loaded fun q hq => ?_⟩
  simp only [List.mem_cons, List.not_mem_nil, or_false] at hq
  rcases hq with rfl | rfl
  · exact ⟨rfl, rfl⟩
  · exact ⟨rfl, by simp [Request.registers?]⟩

end Highlighter.Registry
