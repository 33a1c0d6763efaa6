import Highlighter.Language.Registry
import Highlighter.Proofs.Language.Builtin

/-!
# What the name of a language stands for

A language is resolved by what was registered, by the first file that is found on the search paths,
or as a built-in grammar, in this order (`Resolves`). A file is read as JSON or YAML by the
extension that it was looked for with, because that is the extension of its path
(`Path.extension?_join`). Compiling the grammar of a language follows these rules
(`Registry.resolves_compile`).
-/

namespace Highlighter

/-! ## Paths of grammar files -/

namespace Path

/-- A slash ends a part. -/
lemma splitSlashes_append_slash (part a b : List Char) :
    parts.splitSlashes part (a ++ '/' :: b)
      = parts.splitSlashes part a ++ parts.splitSlashes [] b := by
  induction a generalizing part with
  | nil => simp [parts.splitSlashes]
  | cons c a ih =>
    rw [List.cons_append, parts.splitSlashes, parts.splitSlashes]
    split
    · rw [ih, List.cons_append]
    · rw [ih]

/-- Without a slash there is one part. -/
lemma splitSlashes_of_notMem {part cs : List Char} (h : '/' ∉ cs) :
    parts.splitSlashes part cs = [String.ofList (part.reverse ++ cs)] := by
  induction cs generalizing part with
  | nil => simp [parts.splitSlashes]
  | cons c cs ih =>
    rw [List.mem_cons, not_or] at h
    rw [parts.splitSlashes, if_neg (Ne.symm h.1), ih h.2]
    simp

/-- The name of a file is the last part of its path, and those before it are the directory's. -/
lemma exists_parts_join (directory : String) {file : String} (h : '/' ∉ file.toList) :
    ∃ above, parts (join directory file) = above ++ [file] ∧
      (directory ≠ "" → parts directory = above ∨ parts directory = above ++ [""]) := by
  have alone : parts.splitSlashes [] file.toList = [file] := by
    simp [splitSlashes_of_notMem h]
  have slash : "/".toList = ['/'] := rfl
  unfold join parts
  split
  · next bare =>
    rw [String.toList_append]
    rcases Bool.or_eq_true_iff.1 bare with empty | closed
    · refine ⟨[], ?_, fun some => absurd (String.isEmpty_iff.1 empty) some⟩
      rw [String.isEmpty_iff.1 empty]
      exact alone
    · obtain ⟨above, ends⟩ := String.Slice.endsWith_string_iff.1 closed
      rw [String.copy_toSlice] at ends
      refine ⟨parts.splitSlashes [] above, ?_, fun _ => .inr ?_⟩
      · rw [← ends, slash, List.append_assoc, List.singleton_append, splitSlashes_append_slash,
          alone]
      · rw [← ends, slash, splitSlashes_append_slash]
        rfl
  · refine ⟨parts.splitSlashes [] directory.toList, ?_, fun _ => .inl rfl⟩
    rw [String.toList_append, String.toList_append, slash, List.append_assoc,
      List.singleton_append, splitSlashes_append_slash, alone]

/-- The path of a file in a directory leads to the file. -/
lemma fileName?_join (directory : String) {file : String} (slash : '/' ∉ file.toList)
    (proper : file ∉ ["", ".", ".."]) : fileName? (join directory file) = some file := by
  obtain ⟨above, split, _⟩ := exists_parts_join directory slash
  simp only [List.mem_cons, List.not_mem_nil, or_false, not_or] at proper
  obtain ⟨some, here, up⟩ := proper
  have last : ((parts (join directory file)).filter fun p => p ≠ "" ∧ p ≠ ".").getLast?
      = .some file := by
    rw [split, List.filter_append, List.filter_cons_of_pos (by simp [some, here])]
    simp
  rw [fileName?, last]
  split
  · next e => exact absurd (Option.some.inj e) up
  · rfl

/-- The last dot divides a name from an extension that has none. -/
lemma splitName_append {name extension : String} (nonempty : name ≠ "")
    (dot : '.' ∉ extension.toList) :
    splitName (name ++ "." ++ extension) = (name, some extension) := by
  have reversed : (name ++ "." ++ extension).toList.reverse
      = extension.toList.reverse ++ '.' :: name.toList.reverse := by
    simp [String.toList_append]
  have undotted : ∀ c ∈ extension.toList.reverse, decide (c ≠ '.') = true := by
    intro c hc
    refine decide_eq_true fun e => dot ?_
    rwa [e, List.mem_reverse] at hc
  have behind : (name ++ "." ++ extension).toList.reverse.dropWhile (· ≠ '.')
      = '.' :: name.toList.reverse := by
    rw [reversed, List.dropWhile_append_of_pos undotted, List.dropWhile_cons_of_neg (by simp)]
  have before : (name ++ "." ++ extension).toList.reverse.takeWhile (· ≠ '.')
      = extension.toList.reverse := by
    rw [reversed, List.takeWhile_append_of_pos undotted, List.takeWhile_cons_of_neg (by simp),
      List.append_nil]
  obtain ⟨c, stem, letters⟩ : ∃ c stem, name.toList.reverse = c :: stem := by
    refine List.exists_cons_of_ne_nil fun none => nonempty ?_
    rwa [List.reverse_eq_nil_iff, String.toList_eq_nil_iff] at none
  unfold splitName
  dsimp only
  rw [behind, before, letters]
  dsimp only
  rw [← letters, List.reverse_reverse, List.reverse_reverse, String.ofList_toList,
    String.ofList_toList]

/-- A language's name with an extension is the name of a file. -/
lemma grammarFile_proper {name extension : String} (nonempty : name ≠ "")
    (slash : '/' ∉ name.toList) (known : extension ∈ grammarExtensions) :
    '/' ∉ (name ++ "." ++ extension).toList ∧ name ++ "." ++ extension ∉ ["", ".", ".."] := by
  have letters : '/' ∉ extension.toList ∧ extension.toList ≠ [] := by
    revert extension
    decide
  obtain ⟨noSlash, some⟩ := letters
  have file : (name ++ "." ++ extension).toList = name.toList ++ '.' :: extension.toList := by
    simp [String.toList_append]
  refine ⟨by simp [file, slash, noSlash], fun mem => ?_⟩
  -- such a name has at least three characters
  have short : ∀ s ∈ ["", ".", ".."], s.toList.length ≤ 2 := by decide
  have length := short _ mem
  rw [file, List.length_append, List.length_cons] at length
  have first := List.length_pos_of_ne_nil some
  have last : 0 < name.toList.length :=
    List.length_pos_of_ne_nil fun none => nonempty (String.toList_eq_nil_iff.1 none)
  omega

/-- The extensions of grammar files have no dots. -/
lemma dot_notMem_extension {extension : String} (known : extension ∈ grammarExtensions) :
    '.' ∉ extension.toList := by
  revert extension
  decide

/-- A file that is looked for with an extension has it. -/
lemma extension?_join (directory : String) {name extension : String} (nonempty : name ≠ "")
    (slash : '/' ∉ name.toList) (known : extension ∈ grammarExtensions) :
    extension? (join directory (name ++ "." ++ extension)) = some extension := by
  obtain ⟨noSlash, proper⟩ := grammarFile_proper nonempty slash known
  rw [extension?, fileName?_join directory noSlash proper]
  simp [splitName_append nonempty (dot_notMem_extension known)]

end Path

/-! ## Names of languages -/

/-- A name that leads nowhere else when it is taken for the name of a file. -/
structure LanguageName (name : String) : Prop where
  nonempty : name ≠ ""
  slash : '/' ∉ name.toList
  backslash : '\\' ∉ name.toList
  dots : ¬ ['.', '.'] <:+: name.toList

/-- The search for two dots in a row finds them wherever they stand. -/
lemma hasDoubleDot_iff (cs : List Char) :
    isLanguageName.hasDoubleDot cs = true ↔ ['.', '.'] <:+: cs := by
  fun_induction isLanguageName.hasDoubleDot cs with
  | case1 rest => exact iff_of_true rfl ⟨[], rest, rfl⟩
  | case2 c rest other ih =>
    rw [ih, List.infix_cons_iff]
    refine (or_iff_right fun front => ?_).symm
    obtain ⟨more, e⟩ := front
    cases e
    exact other more rfl rfl
  | case3 => simp

/-- The check for names of languages lets just these through. -/
lemma isLanguageName_iff {name : String} : isLanguageName name = true ↔ LanguageName name := by
  simp only [isLanguageName, Bool.and_eq_true, Bool.not_eq_true', ← Bool.not_eq_true,
    List.isEmpty_iff, List.contains_iff_mem, hasDoubleDot_iff, String.toList_eq_nil_iff]
  constructor
  · rintro ⟨⟨⟨nonempty, slash⟩, backslash⟩, dots⟩
    exact ⟨nonempty, slash, backslash, dots⟩
  · rintro ⟨nonempty, slash, backslash, dots⟩
    exact ⟨⟨⟨nonempty, slash⟩, backslash⟩, dots⟩

/-! ## Resolving -/

/-- Where the grammar file of a language is looked for in a directory. -/
def grammarPath (directory name extension : String) : String :=
  Path.join directory (name ++ "." ++ extension)

/--
The first file of a language on the search paths: in no directory before its own is there one, and
none with an extension that is tried before its own.
-/
structure FirstFile (files : FileSystem) (paths : List String) (name directory extension : String) :
    Prop where
  found : files.isFile (grammarPath directory name extension) = true
  directories : ∃ before after, paths = before ++ directory :: after ∧
    ∀ d ∈ before, ∀ x ∈ ["yaml", "yml", "json"], files.isFile (grammarPath d name x) = false
  extensions : ∃ before after, ["yaml", "yml", "json"] = before ++ extension :: after ∧
    ∀ x ∈ before, files.isFile (grammarPath directory name x) = false

/-- No search path has a file of a language. -/
def NoFile (files : FileSystem) (paths : List String) (name : String) : Prop :=
  ∀ d ∈ paths, ∀ x ∈ ["yaml", "yml", "json"], files.isFile (grammarPath d name x) = false

/--
What the name of a language stands for, by the grammar that was registered for it last, the search
paths and the files.
-/
inductive Resolves (files : FileSystem) (registered : Option Table) (paths : List String)
    (name : String) : Except LoadError Table → Prop where
  | refused :
    ¬ LanguageName name →
    Resolves files registered paths name (.error (.unknownLanguage name))
  | registered {table : Table} :
    LanguageName name →
    registered = some table →
    Resolves files registered paths name (.ok table)
  | unreadable {directory extension : String} {cause : FileError} :
    LanguageName name →
    registered = none →
    FirstFile files paths name directory extension →
    files.readText (grammarPath directory name extension) = .error cause →
    Resolves files registered paths name
      (.error (.unreadable (grammarPath directory name extension) cause))
  | invalid {directory extension : String} {text : Text} {cause : GrammarError} :
    LanguageName name →
    registered = none →
    FirstFile files paths name directory extension →
    files.readText (grammarPath directory name extension) = .ok text →
    (if extension = "json" then Table.readJson text else Table.readYaml text) = .error cause →
    Resolves files registered paths name (.error (.invalid name cause))
  | file {directory extension : String} {text : Text} {table : Table} :
    LanguageName name →
    registered = none →
    FirstFile files paths name directory extension →
    files.readText (grammarPath directory name extension) = .ok text →
    (if extension = "json" then Table.readJson text else Table.readYaml text) = .ok table →
    Resolves files registered paths name (.ok { table with name := some (table.name.getD name) })
  | builtIn {d : Definition} {table : Table} :
    LanguageName name →
    registered = none →
    NoFile files paths name →
    (name, d) ∈ Builtin.all →
    d.compile = .ok table →
    Resolves files registered paths name (.ok { table with name := some (table.name.getD name) })
  | unknown :
    LanguageName name →
    registered = none →
    NoFile files paths name →
    name ∉ Builtin.all.map Prod.fst →
    Resolves files registered paths name (.error (.unknownLanguage name))

namespace Registry

variable {r : Registry} {files : FileSystem} {name : String}

/-- If no file is found, there is none. -/
lemma noFile_of_file? (h : r.file? files name = none) : NoFile files r.searchPaths name := by
  intro d hd x hx
  refine Bool.eq_false_iff.2 (List.find?_eq_none.1 h _ ?_)
  exact List.mem_flatMap.2 ⟨d, hd, List.mem_map_of_mem hx⟩

/-- The file that is found is the first one. -/
lemma exists_firstFile {path : String} (h : r.file? files name = some path) :
    ∃ directory extension, path = grammarPath directory name extension ∧
      FirstFile files r.searchPaths name directory extension := by
  rw [file?, candidates, List.find?_flatMap] at h
  obtain ⟨before, directory, after, split, found, none⟩ := List.findSome?_eq_some_iff.1 h
  obtain ⟨isFile, tried, untried, listed, failed⟩ := List.find?_eq_some_iff_append.1 found
  obtain ⟨first, rest, extensions, rfl, others⟩ := List.map_eq_append_iff.1 listed
  obtain ⟨extension, last, rfl, rfl, rfl⟩ := List.map_eq_cons_iff.1 others
  refine ⟨directory, extension, rfl, isFile, ⟨before, after, split, fun d hd x hx => ?_⟩,
    ⟨first, last, extensions, fun x hx => ?_⟩⟩
  · exact Bool.eq_false_iff.2 (List.find?_eq_none.1 (none d hd) _ (List.mem_map_of_mem hx))
  · simpa [grammarPath] using failed _ (List.mem_map_of_mem hx)

/-- A grammar file is read as its extension says. -/
lemma readFile_grammarPath (plain : LanguageName name) (directory : String) {extension : String}
    (known : extension ∈ grammarExtensions) (text : Text) :
    Table.readFile (grammarPath directory name extension) text
      = if extension = "json" then Table.readJson text else Table.readYaml text := by
  rw [Table.readFile, grammarPath,
    Path.extension?_join directory plain.nonempty plain.slash known]
  simp only [Option.some_inj]

/-- Compiling the grammar of a language that is not registered resolves it. -/
lemma resolves_compile (plain : LanguageName name) :
    Resolves files none r.searchPaths name (r.compile files name).1 := by
  unfold compile
  split
  · next path found =>
    obtain ⟨directory, extension, rfl, first⟩ := exists_firstFile found
    have known : extension ∈ grammarExtensions := by
      obtain ⟨before, after, split, _⟩ := first.extensions
      rw [grammarExtensions, split]
      simp
    cases read : files.readText (grammarPath directory name extension) with
    | error cause => exact .unreadable plain rfl first read
    | ok text =>
      have parsed := readFile_grammarPath plain directory known text
      cases result : Table.readFile (grammarPath directory name extension) text with
      | error cause =>
        rw [result] at parsed
        simp only [result]
        exact .invalid plain rfl first read parsed.symm
      | ok table =>
        rw [result] at parsed
        simp only [result]
        exact .file plain rfl first read parsed.symm
  · next none =>
    have noFile := noFile_of_file? none
    split
    · next d found =>
      obtain ⟨_, _, listed, _⟩ := List.lookup_eq_some_iff.1 found
      have mem : (name, d) ∈ Builtin.all := by simp [listed]
      obtain ⟨table, compiled⟩ := Builtin.exists_compile mem
      simp only [compiled]
      exact .builtIn plain rfl noFile mem compiled
    · next missing =>
      refine .unknown plain rfl noFile fun mem => ?_
      obtain ⟨entry, hentry, same⟩ := List.mem_map.1 mem
      have differ := List.lookup_eq_none_iff.1 missing entry hentry
      simp [same] at differ

end Registry

end Highlighter
