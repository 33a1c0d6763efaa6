import Highlighter.Files.Folder
import Highlighter.Proofs.Language.Coherence

/-!
# The languages that are listed

A registry lists the built-in languages, the registered ones and those that the names in the search
paths stand for (`Registry.mem_languages`). All that can be loaded is listed, as long as the search
paths list the files that are found in them (`FileSystem.Lists`), which all directories of a folder
do. Not all that is listed can be loaded: a grammar may be registered for what cannot be the name of
a language, and an entry with the name of a grammar file need not be a file. Other names of that
kind (`Phantom`) there are none. The main result is `Registry.mem_languages_iff_load`.
-/

namespace Highlighter

/-! ## Names of grammar files -/

/-- A name that is split at a dot is made of its parts. -/
lemma Path.eq_of_splitName {file stem extension : String}
    (h : splitName file = (stem, some extension)) : file = stem ++ "." ++ extension := by
  unfold splitName at h
  dsimp only at h
  split at h
  · next dot c rest behind =>
    obtain ⟨stems, extensions⟩ := Prod.mk.inj h
    rw [← stems, ← Option.some.inj extensions]
    have isDot : dot = '.' := by
      have first := List.head?_dropWhile_not (· ≠ '.') file.toList.reverse
      rw [behind] at first
      simpa using first
    have whole : file.toList.reverse.takeWhile (· ≠ '.') ++ '.' :: c :: rest
        = file.toList.reverse := by
      have split := List.takeWhile_append_dropWhile (p := (· ≠ '.')) (l := file.toList.reverse)
      rwa [behind, isDot] at split
    have letters := congrArg List.reverse whole
    rw [List.reverse_reverse, List.reverse_append, List.reverse_cons] at letters
    simp only [← String.toList_inj, String.toList_append, String.toList_ofList]
    exact letters.symm
  · cases h

/-- A file defines a language if its name is the language's, with one of the extensions. -/
lemma languageOfFile?_eq_some_iff {file name : String} :
    languageOfFile? file = some name ↔
      LanguageName name ∧ ∃ x ∈ grammarExtensions, file = name ++ "." ++ x := by
  constructor
  · intro h
    unfold languageOfFile? at h
    cases split : Path.splitName file with
    | mk stem extension =>
      cases extension with
      | none => simp [split] at h
      | some x =>
        obtain ⟨⟨known, good⟩, rfl⟩ :
            (x ∈ grammarExtensions ∧ isLanguageName stem = true) ∧ stem = name := by
          simpa [split, Option.bind_eq_some_iff, guard] using h
        exact ⟨isLanguageName_iff.1 good, x, known, Path.eq_of_splitName split⟩
  · rintro ⟨plain, x, known, rfl⟩
    simp [languageOfFile?, Path.splitName_append plain.nonempty (Path.dot_notMem_extension known),
      known, isLanguageName_iff.2 plain]

/-! ## Directories -/

namespace FileSystem

/-- A directory has a name in it that a grammar file of a language would have. -/
def Offers (files : FileSystem) (directory name : String) : Prop :=
  ∃ entries, files.list? directory = some entries ∧
    ∃ x ∈ ["yaml", "yml", "json"], name ++ "." ++ x ∈ entries

/-- A directory can be listed, and lists the files that are found in it. -/
def Lists (files : FileSystem) (directory : String) : Prop :=
  ∃ entries, files.list? directory = some entries ∧
    ∀ file, '/' ∉ file.toList → file ∉ ["", ".", ".."] →
      files.isFile (Path.join directory file) = true → file ∈ entries

/-- A grammar file that is found is among the names of its directory. -/
lemma Lists.offers {files : FileSystem} {directory name x : String} (h : files.Lists directory)
    (plain : LanguageName name) (known : x ∈ grammarExtensions)
    (found : files.isFile (grammarPath directory name x) = true) :
    files.Offers directory name := by
  obtain ⟨entries, listed, all⟩ := h
  obtain ⟨slash, proper⟩ := Path.grammarFile_proper plain.nonempty plain.slash known
  exact ⟨entries, listed, x, known, all _ slash proper found⟩

end FileSystem

namespace Folder

variable (f : Folder)

/-- A path leads where its last parts lead from where the first ones lead. -/
lemma walk_append (place : Place) (a b : List String) :
    f.walk place (a ++ b) = f.walk place a >>= fun middle => f.walk middle b := by
  induction a generalizing place with
  | nil => rfl
  | cons part a ih =>
    rw [List.cons_append, walk, walk]
    split
    · rfl
    split
    · exact ih place
    split
    · exact ih place.parent
    · cases f.child part place with
      | error e => rfl
      | ok below => exact ih below

/-- What lies below a directory is among its names. -/
lemma mem_names {place : List String} {name : String} {bytes : Option ByteArray}
    (h : f.entries.lookup (place ++ [name]) = some bytes) : name ∈ f.names place := by
  obtain ⟨_, _, entries, _⟩ := List.lookup_eq_some_iff.1 h
  refine List.mem_eraseDups.2 (List.mem_filterMap.2 ⟨(place ++ [name], bytes), ?_, ?_⟩)
  · simp [entries]
  · simp

/-- A path that is longer starts at the same place. -/
lemma origin_join {directory : String} (some : directory ≠ "") (file : String) :
    origin (Path.join directory file) = origin directory := by
  obtain ⟨c, cs, letters⟩ := List.exists_cons_of_ne_nil (mt String.toList_eq_nil_iff.1 some)
  have same : (Path.join directory file).startsWith "/" = directory.startsWith "/" := by
    rw [Bool.eq_iff_iff, String.startsWith_string_iff, String.startsWith_string_iff]
    unfold Path.join
    split <;> simp [String.toList_append, letters]
  rw [origin, origin, same]

/-- What is found below a directory is found by its name from where the directory is. -/
lemma walk_join {directory file : String} {place below : Place} (some : directory ≠ "")
    (slash : '/' ∉ file.toList)
    (here : f.walk (origin directory) (Path.parts directory) = .ok place)
    (there : f.walk (origin (Path.join directory file)) (Path.parts (Path.join directory file))
      = .ok below) :
    f.walk place [file] = .ok below := by
  obtain ⟨above, split, ends⟩ := Path.exists_parts_join directory slash
  rw [origin_join some, split, walk_append] at there
  cases middle : f.walk (origin directory) above with
  | error e =>
    rw [middle] at there
    cases there
  | ok p =>
    rw [middle] at there
    have same : place = p := by
      rcases ends some with all | closed
      · rw [all, middle] at here
        exact (Except.ok.inj here).symm
      · -- a slash at the end leads nowhere else
        rw [closed, walk_append, middle] at here
        change f.walk p [""] = .ok place at here
        rw [walk] at here
        split at here
        · cases here
        · rw [if_pos (.inl rfl)] at here
          exact (Except.ok.inj here).symm
    rw [same]
    exact there

/-- What there is at a place. -/
def entryAt (f : Folder) : Place → Entry
  | .outside => .directory []
  | .inside names =>
    match f.entries.lookup names with
    | some (some bytes) => .file bytes
    | _ => .directory (f.names names)

/-- What is found at a path is what there is where it leads. -/
lemma exists_walk_of_lookup {path : String} {entry : Entry} (h : f.lookup path = .ok entry) :
    path ≠ "" ∧ ∃ place, f.walk (origin path) (Path.parts path) = .ok place ∧
      entry = f.entryAt place := by
  unfold lookup at h
  split at h
  · cases h
  · next some =>
    split at h
    · cases h
    · refine ⟨by simpa [String.isEmpty_iff] using some, ?_⟩
      cases leads : f.walk (origin path) (Path.parts path) with
      | error e =>
        rw [leads] at h
        cases h
      | ok place =>
        rw [leads] at h
        refine ⟨place, rfl, ?_⟩
        cases place with
        | outside => exact (Except.ok.inj h).symm
        | inside names =>
          change (match f.entries.lookup names with
            | Option.some (Option.some bytes) => Except.ok (Entry.file bytes)
            | _ => .ok (Entry.directory (f.names names))) = .ok entry at h
          rw [entryAt]
          split at h <;> exact (Except.ok.inj h).symm

/-- A name leads from a place only if it is among the names that there are. -/
lemma mem_of_walk {place below : Place} {file : String} {entries : List String}
    (step : f.walk place [file] = .ok below) (proper : file ∉ ["", ".", ".."])
    (directory : .directory entries = f.entryAt place) : file ∈ entries := by
  simp only [List.mem_cons, List.not_mem_nil, or_false, not_or] at proper
  obtain ⟨some, here, up⟩ := proper
  rw [walk, if_neg (not_or.2 ⟨some, here⟩), if_neg up] at step
  split at step
  · cases step
  cases place with
  | outside => cases step
  | inside names =>
    have listed : entries = f.names names := by
      rw [entryAt] at directory
      split at directory
      · cases directory
      · exact Entry.directory.inj directory
    rw [child] at step
    split at step
    · cases step
    split at step
    · next found =>
      obtain ⟨bytes, found⟩ := Option.isSome_iff_exists.1 found
      rw [listed]
      exact f.mem_names found
    · cases step

/-- The directories of a folder list what is found in them. -/
lemma lists_of_isSome {directory : String} (listed : (FileSystem.list? f.lookup directory).isSome) :
    FileSystem.Lists f.lookup directory := by
  obtain ⟨entries, names⟩ := Option.isSome_iff_exists.1 listed
  refine ⟨entries, names, fun file slash proper found => ?_⟩
  unfold FileSystem.list? at names
  split at names
  · next names' isDirectory =>
    cases names
    obtain ⟨some, place, here, known⟩ := f.exists_walk_of_lookup isDirectory
    cases there : f.lookup (Path.join directory file) with
    | error e => simp [FileSystem.isFile, there] at found
    | ok entry =>
      obtain ⟨_, below, leads, _⟩ := f.exists_walk_of_lookup there
      exact f.mem_of_walk (f.walk_join some slash here leads) proper known
  · cases names

end Folder

/-! ## Listing -/

/-- Adding a name to a list of names adds it. -/
lemma mem_insertName {name added : String} {names : List String} :
    name ∈ insertName added names ↔ name = added ∨ name ∈ names := by
  induction names with
  | nil => simp [insertName]
  | cons first names ih =>
    rw [insertName]
    split
    · exact List.mem_cons
    · split
      · next same =>
        rw [same, or_iff_right_of_imp]
        rintro rfl
        exact List.mem_cons_self
      · rw [List.mem_cons, ih, List.mem_cons, or_left_comm]

/-- Inserting names one by one adds just these names. -/
lemma mem_foldl_insertName {name : String} {names more : List String} :
    name ∈ more.foldl (fun ns n => insertName n ns) names ↔ name ∈ names ∨ name ∈ more := by
  induction more generalizing names with
  | nil => simp
  | cons first more ih =>
    rw [List.foldl_cons, ih, mem_insertName, List.mem_cons, or_assoc, or_left_comm]

namespace Registry

variable {files : FileSystem} {name : String}

/-- A directory adds the languages that its names stand for. -/
lemma mem_addDirectory {names : List String} {directory : String} :
    name ∈ (addDirectory files names directory).1 ↔
      name ∈ names ∨ LanguageName name ∧ files.Offers directory name := by
  unfold addDirectory
  cases listed : files.list? directory with
  | none => simp [FileSystem.Offers, listed]
  | some entries =>
    simp only [mem_foldl_insertName, List.mem_filterMap, languageOfFile?_eq_some_iff]
    refine or_congr_right ⟨?_, ?_⟩
    · rintro ⟨_, mem, plain, x, known, rfl⟩
      exact ⟨plain, entries, listed, x, known, mem⟩
    · rintro ⟨plain, entries', listed', x, known, mem⟩
      cases listed.symm.trans listed'
      exact ⟨_, mem, plain, x, known, rfl⟩

/-- The directories add the languages that one of them offers. -/
lemma mem_addDirectories {names paths : List String} :
    name ∈ (addDirectories files names paths).1 ↔
      name ∈ names ∨ LanguageName name ∧ ∃ d ∈ paths, files.Offers d name := by
  induction paths generalizing names with
  | nil => simp [addDirectories]
  | cons first paths ih =>
    rw [addDirectories, ih, mem_addDirectory, List.exists_mem_cons_iff, or_assoc, and_or_left]

/-- What is listed: built-in languages, registered ones, and those that search paths offer. -/
lemma mem_languages (r : Registry) (files : FileSystem) (name : String) :
    name ∈ (r.languages files).1 ↔
      name ∈ Builtin.all.map Prod.fst ∨ (r.registered? name).isSome ∨
        LanguageName name ∧ ∃ d ∈ r.searchPaths, files.Offers d name := by
  have registered : name ∈ r.registered.map Prod.fst ↔ (r.registered? name).isSome := by
    rw [registered?, Option.isSome_map, List.lookup_isSome_iff, List.mem_map]
    exact exists_congr fun p => and_congr_right' (eq_comm.trans beq_iff_eq.symm)
  rw [languages, mem_addDirectories, mem_foldl_insertName, List.mem_append, registered]
  simp only [List.not_mem_nil, false_or, or_assoc]

end Registry

/-! ## Loading what is listed -/

/-- The names of the built-in languages are names of languages. -/
lemma Builtin.languageName {name : String} (mem : name ∈ Builtin.all.map Prod.fst) :
    LanguageName name := by
  have all : ∀ n ∈ Builtin.all.map Prod.fst, isLanguageName n = true := by decide
  exact isLanguageName_iff.1 (all name mem)

/-- A language is unknown if its name cannot be one, or if nothing is found under it. -/
lemma Resolves.unknown_iff {files : FileSystem} {registered : Option Table} {paths : List String}
    {name : String} {result : Except LoadError Table}
    (h : Resolves files registered paths name result) :
    (∃ other, result = .error (.unknownLanguage other)) ↔
      ¬ LanguageName name ∨
        registered = none ∧ NoFile files paths name ∧ name ∉ Builtin.all.map Prod.fst := by
  have file {directory extension : String}
      (first : FirstFile files paths name directory extension) : ¬ NoFile files paths name := by
    obtain ⟨_, _, isIn, _⟩ := first.directories
    obtain ⟨_, _, known, _⟩ := first.extensions
    intro none
    have absent := none directory (by simp [isIn]) extension (by simp [known])
    rw [first.found] at absent
    cases absent
  cases h with
  | refused bad => simp [bad]
  | registered plain found => simp [plain, found]
  | unreadable plain _ first _ => simp [plain, file first]
  | invalid plain _ first _ _ => simp [plain, file first]
  | file plain _ first _ _ => simp [plain, file first]
  | @builtIn d _ plain _ _ mem _ =>
    have listed : name ∈ Builtin.all.map Prod.fst := List.mem_map_of_mem mem
    simp only [reduceCtorEq, exists_false, plain, not_true_eq_false, listed, and_false, or_self]
  | unknown plain unregistered none absent =>
    simp only [Except.error.injEq, LoadError.unknownLanguage.injEq, exists_eq', true_iff]
    exact .inr ⟨unregistered, none, absent⟩

namespace Registry

/-- Loading a language says that there is none. -/
def IsUnknown (r : Registry) (files : FileSystem) (name : String) : Prop :=
  ∃ other, (r.load files name).result = .error (.unknownLanguage other)

/-- A name that is listed, though nothing can be loaded under it. -/
inductive Phantom (files : FileSystem) (requests : List Request) (name : String) : Prop where
  /-- A grammar is registered for what cannot be the name of a language. -/
  | refused :
    ¬ LanguageName name →
    (Request.latest? name requests).isSome →
    Phantom files requests name
  /-- What has the name of a grammar file is none. -/
  | fileless :
    LanguageName name →
    Request.latest? name requests = none →
    name ∉ Builtin.all.map Prod.fst →
    NoFile files (Request.searchPaths requests) name →
    (∃ d ∈ Request.searchPaths requests, files.Offers d name) →
    Phantom files requests name

/-- After such requests a language is unknown if nothing that it could be resolved by is there. -/
lemma isUnknown_run (files : FileSystem) (requests : List Request) (name : String) :
    (empty.run (requests.map (files, ·))).IsUnknown files name ↔
      ¬ LanguageName name ∨
        Request.latest? name requests = none ∧ NoFile files (Request.searchPaths requests) name ∧
          name ∉ Builtin.all.map Prod.fst := by
  have resolves := resolves_answer (empty.run (requests.map (files, ·))) files name
  rw [registered?_run_empty, searchPaths_run_empty,
    ← ((coherent_empty files).run requests).load_eq] at resolves
  rw [← resolves.unknown_iff, IsUnknown]
  cases ((empty.run (requests.map (files, ·))).load files name).result <;> simp [Except.map]

/--
Whatever grammars are registered, directories searched and languages loaded while the files stay the
same and the search paths list their files: all that can be loaded is listed. What is listed and
cannot be loaded are the names that no language can have with a grammar registered for them, and
those for which a search path has an entry by the name of a grammar file that is not a file.
-/
theorem mem_languages_iff_load (files : FileSystem) (requests : List Request)
    (readable : ∀ d ∈ Request.searchPaths requests, files.Lists d) (name : String) :
    let r := empty.run (requests.map (files, ·))
    (¬ r.IsUnknown files name → name ∈ (r.languages files).1) ∧
      (name ∈ (r.languages files).1 ∧ r.IsUnknown files name ↔ Phantom files requests name) := by
  intro r
  have unknown := isUnknown_run files requests name
  have listed := mem_languages r files name
  rw [registered?_run_empty, searchPaths_run_empty] at listed
  rw [unknown, listed]
  constructor
  · intro known
    obtain ⟨plain, found⟩ := not_or.1 known
    rw [not_not] at plain
    by_contra absent
    obtain ⟨notBuiltIn, unregistered, notOffered⟩ := by simpa only [not_or] using absent
    refine found ⟨by simpa using unregistered, fun d hd x hx => ?_, notBuiltIn⟩
    refine Bool.eq_false_iff.2 fun isFile => notOffered ⟨plain, d, hd, ?_⟩
    exact (readable d hd).offers plain hx isFile
  · constructor
    · rintro ⟨isListed, bad | ⟨unregistered, noFile, notBuiltIn⟩⟩
      · rcases isListed with builtIn | registered | ⟨plain, _⟩
        · exact absurd (Builtin.languageName builtIn) bad
        · exact .refused bad registered
        · exact absurd plain bad
      · rcases isListed with builtIn | registered | ⟨plain, offered⟩
        · exact absurd builtIn notBuiltIn
        · simp [unregistered] at registered
        · exact .fileless plain unregistered notBuiltIn noFile offered
    · intro phantom
      cases phantom with
      | refused bad registered => exact ⟨.inr (.inl registered), .inl bad⟩
      | fileless plain unregistered notBuiltIn noFile offered =>
        exact ⟨.inr (.inr ⟨plain, offered⟩), .inr ⟨unregistered, noFile, notBuiltIn⟩⟩

/-- A folder with a grammar file, and a directory that is named like one. -/
def mixedFolder : Folder :=
  (Folder.empty.write "d/lang.yaml" (some ⟨#[]⟩)).write "d/dir.yml" none

/-- A language with a file is listed, and so is the name of a directory. -/
theorem mem_languages_iff_load_mixed :
    let files := mixedFolder.lookup
    let r := empty.run [(files, .addSearchPath "d"), (files, .load "lang")]
    (¬ r.IsUnknown files "lang" ∧ "lang" ∈ (r.languages files).1) ∧
      "dir" ∈ (r.languages files).1 ∧ r.IsUnknown files "dir" := by
  intro files r
  let requests : List Request := [.addSearchPath "d", .load "lang"]
  have readable : ∀ d ∈ Request.searchPaths requests, FileSystem.Lists files d :=
    List.forall_mem_singleton.2 (mixedFolder.lists_of_isSome (by decide +kernel))
  have known : ¬ r.IsUnknown files "lang" := by
    refine (not_congr (isUnknown_run files requests "lang")).2 (not_or.2 ⟨?_, fun unknown => ?_⟩)
    · exact not_not.2 (isLanguageName_iff.1 (by decide +kernel))
    · have absent := unknown.2.1 "d" List.mem_cons_self "yaml" List.mem_cons_self
      have found : FileSystem.isFile files (grammarPath "d" "lang" "yaml") = true := by
        decide +kernel
      rw [found] at absent
      cases absent
  have phantom : Phantom files requests "dir" := by
    refine .fileless (isLanguageName_iff.1 (by decide +kernel)) rfl (by decide) ?_ ?_
    · exact List.forall_mem_singleton.2 (by decide +kernel)
    · exact ⟨"d", List.mem_cons_self, ["dir.yml", "lang.yaml"], by decide +kernel, "yml", by decide⟩
  exact ⟨⟨known, (mem_languages_iff_load files requests readable "lang").1 known⟩,
    (mem_languages_iff_load files requests readable "dir").2.2 phantom⟩

/--
A grammar that is registered for a path is listed and cannot be loaded, and neither can what a
directory that is named like a grammar file stands for.
-/
theorem languages_list_unknown :
    (let files := Folder.empty.lookup
      let r := empty.run [(files, .register "a/b" ⟨none, [[]], by decide⟩)]
      (r.languages files).1 = ["a/b", "c", "diff", "properties", "url"] ∧
        r.IsUnknown files "a/b") ∧
    (let files := (Folder.empty.write "d/dir.yml" none).lookup
      let r := empty.run [(files, .addSearchPath "d")]
      FileSystem.Lists files "d" ∧
        (r.languages files).1 = ["c", "diff", "dir", "properties", "url"] ∧
        r.IsUnknown files "dir") := by
  refine ⟨⟨by decide +kernel, ?_⟩, ?_, by decide +kernel, ?_⟩
  · have unknown :=
      isUnknown_run Folder.empty.lookup [.register "a/b" ⟨none, [[]], by decide⟩] "a/b"
    exact unknown.2 (.inl fun plain => plain.slash (by decide))
  · exact Folder.lists_of_isSome _ (by decide +kernel)
  · refine (isUnknown_run _ [.addSearchPath "d"] "dir").2 (.inr ⟨rfl, ?_, by decide⟩)
    exact List.forall_mem_singleton.2 (by decide +kernel)

end Registry

end Highlighter
