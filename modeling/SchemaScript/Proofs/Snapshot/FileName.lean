import SchemaScript.Proofs.Files.Entry
import SchemaScript.Proofs.Unicode.WhiteSpace
import SchemaScript.Snapshot.FileName

/-!
# SchemaScript.Proofs.Snapshot.FileName

The name of the file for a project's script. Characters that mean something in a path are replaced
before white space is trimmed, so that trimming cannot bring any of them back, and what replaces them is
no white space. The name is that of one file in whatever directory it is put.

* `replaced_eq_self`: a text without such characters stays as it is.
* `not_isPathHostile_of_mem_scriptStem`, `isTrimmed_scriptStem`: what no name contains.
* `scriptStem_of_blank`, `scriptStem_of_plain`: names that are known beforehand.
* `isEntryName_scriptFileName`: the name is the name of one file.
* `scriptFileName_safe`: all of this together.
-/

namespace SchemaScript

open Unicode

variable {projectName : String} {cs : List Char} {c : Char}

/-! ## Characters -/

/-- Neither does the character mean anything in a path, nor is it a control character. -/
theorem isPathHostile_eq_false_iff : isPathHostile c = false ↔
    c ∉ ['/', '\\', ':', '*', '?', '"', '<', '>', '|'] ∧ isControl c = false := by
  rw [isPathHostile, Bool.or_eq_false_iff, List.contains_eq_mem, decide_eq_false_iff_not]

theorem isPathHostile_underscore : isPathHostile '_' = false := by
  decide

/-- Of white space only the control characters are replaced. -/
theorem not_isPathHostile_of_isWhiteSpace (hspace : isWhiteSpace c = true)
    (hcontrol : isControl c = false) : isPathHostile c = false := by
  have hmarks : ['/', '\\', ':', '*', '?', '"', '<', '>', '|'].any isWhiteSpace = false := by
    decide
  refine isPathHostile_eq_false_iff.mpr ⟨fun hmem => ?_, hcontrol⟩
  exact List.any_eq_false.mp hmarks c hmem hspace

/-- A text with an underscore for every character that may not stand in a file name. -/
def replaced (cs : List Char) : List Char :=
  cs.map fun c => if isPathHostile c then '_' else c

theorem not_isPathHostile_of_mem_replaced (h : c ∈ replaced cs) : isPathHostile c = false := by
  obtain ⟨d, -, hd⟩ := List.mem_map.mp h
  split at hd
  · rw [← hd]
    exact isPathHostile_underscore
  · rename_i hnot
    rw [← hd]
    exact Bool.eq_false_iff.mpr hnot

theorem replaced_eq_self (h : ∀ c ∈ cs, isPathHostile c = false) : replaced cs = cs := by
  have hsame : ∀ c ∈ cs, (if isPathHostile c then '_' else c) = c := by
    intro c hc
    rw [h c hc]
    rfl
  rw [replaced, List.map_congr_left hsame, List.map_id']

/-! ## The name without its extension -/

theorem scriptStem_eq (projectName : String) : scriptStem projectName
    = if (trimChars (replaced projectName.toList)).isEmpty then "project"
      else String.ofList (trimChars (replaced projectName.toList)) := rfl

theorem scriptStem_of_eq_nil (h : trimChars (replaced projectName.toList) = []) :
    scriptStem projectName = "project" := by
  rw [scriptStem_eq, h]
  rfl

theorem toList_scriptStem (h : trimChars (replaced projectName.toList) ≠ []) :
    (scriptStem projectName).toList = trimChars (replaced projectName.toList) := by
  rw [scriptStem_eq, List.isEmpty_eq_false_iff.mpr h, if_neg Bool.false_ne_true,
    String.toList_ofList]

theorem not_isPathHostile_of_mem_scriptStem (h : c ∈ (scriptStem projectName).toList) :
    isPathHostile c = false := by
  by_cases hnil : trimChars (replaced projectName.toList) = []
  · have hproject : "project".toList.any isPathHostile = false := by decide
    rw [scriptStem_of_eq_nil hnil] at h
    exact Bool.eq_false_iff.mpr (List.any_eq_false.mp hproject c h)
  · rw [toList_scriptStem hnil] at h
    exact not_isPathHostile_of_mem_replaced (mem_of_mem_trimChars h)

theorem scriptStem_ne_empty (projectName : String) : scriptStem projectName ≠ "" := by
  intro hempty
  by_cases hnil : trimChars (replaced projectName.toList) = []
  · rw [scriptStem_of_eq_nil hnil] at hempty
    exact absurd hempty (by decide)
  · have hchars := toList_scriptStem hnil
    rw [hempty] at hchars
    exact hnil hchars.symm

theorem isTrimmed_scriptStem (projectName : String) : IsTrimmed (scriptStem projectName).toList := by
  by_cases hnil : trimChars (replaced projectName.toList) = []
  · rw [scriptStem_of_eq_nil hnil]
    exact trimChars_eq_self_iff.mp (by decide)
  · rw [toList_scriptStem hnil]
    exact isTrimmed_trimChars _

/-- Nothing is left of white space that is kept. -/
theorem scriptStem_of_blank
    (h : ∀ c ∈ projectName.toList, isWhiteSpace c = true ∧ isControl c = false) :
    scriptStem projectName = "project" := by
  have hkept : replaced projectName.toList = projectName.toList :=
    replaced_eq_self fun c hc => not_isPathHostile_of_isWhiteSpace (h c hc).1 (h c hc).2
  have hblank : isBlank projectName = true := List.all_eq_true.mpr fun c hc => (h c hc).1
  have htrim := congrArg String.toList (isBlank_iff_trim_eq.mp hblank)
  rw [trim, String.toList_ofList] at htrim
  apply scriptStem_of_eq_nil
  rw [hkept, htrim]
  rfl

/-- A name that may be a file name is one. -/
theorem scriptStem_of_plain (hne : projectName ≠ "")
    (h : ∀ c ∈ projectName.toList, isPathHostile c = false)
    (htrimmed : IsTrimmed projectName.toList) : scriptStem projectName = projectName := by
  have hkept : trimChars (replaced projectName.toList) = projectName.toList := by
    rw [replaced_eq_self h, trimChars_eq_self_iff.mpr htrimmed]
  have hnil : trimChars (replaced projectName.toList) ≠ [] := by
    rw [hkept]
    exact fun hnil => hne (String.toList_eq_nil_iff.mp hnil)
  rw [← String.toList_inj, toList_scriptStem hnil, hkept]

/-! ## The name -/

theorem toList_scriptFileName (projectName : String) : (scriptFileName projectName).toList
    = (scriptStem projectName).toList ++ ['.', 's', 'q', 'l'] := by
  rw [scriptFileName, String.toList_append]
  rfl

theorem not_isPathHostile_of_mem_scriptFileName (h : c ∈ (scriptFileName projectName).toList) :
    isPathHostile c = false := by
  have hextension : ['.', 's', 'q', 'l'].any isPathHostile = false := by decide
  rw [toList_scriptFileName, List.mem_append] at h
  rcases h with h | h
  · exact not_isPathHostile_of_mem_scriptStem h
  · exact Bool.eq_false_iff.mpr (List.any_eq_false.mp hextension c h)

/-- The name of a script is the name of one file in a directory, whatever the project is called. -/
theorem isEntryName_scriptFileName (projectName : String) :
    IsEntryName (scriptFileName projectName) := by
  have hlong : 4 ≤ (scriptFileName projectName).toList.length := by
    rw [toList_scriptFileName, List.length_append]
    simp
  have hshort (name : String) (hname : name.toList.length < 4) :
      scriptFileName projectName ≠ name := by
    intro heq
    rw [heq] at hlong
    omega
  refine ⟨hshort "" (by decide), hshort "." (by decide), hshort ".." (by decide), fun hmem => ?_⟩
  exact absurd (not_isPathHostile_of_mem_scriptFileName hmem) (by decide)

/-- The name of a script is that of its project with the extension `.sql`, less the white space around
it and with underscores for the characters that may not stand in a file name. It is the name of one file:
below any directory it leads to an entry of that directory and to no other place, unless the path is too
long. -/
theorem scriptFileName_safe (projectName : String) :
    ∃ stem, scriptFileName projectName = stem ++ ".sql" ∧ stem ≠ "" ∧
      (∀ c ∈ (scriptFileName projectName).toList,
        c ∉ ['/', '\\', ':', '*', '?', '"', '<', '>', '|'] ∧ isControl c = false) ∧
      (∀ c ∈ (scriptFileName projectName).toList.head?, isWhiteSpace c = false) ∧
      (∀ c ∈ stem.toList.getLast?, isWhiteSpace c = false) ∧
      scriptFileName projectName ≠ "." ∧ scriptFileName projectName ≠ ".." ∧
      (∀ directory, pathNames (joinPath directory (scriptFileName projectName))
        = parentNames directory ++ [scriptFileName projectName]) ∧
      (∀ (t : FileTree) directory place, t.Opens directory place →
        t.locate (joinPath directory (scriptFileName projectName))
          = (FileTree.admits directory (scriptFileName projectName)).map
            fun _ => place ++ [scriptFileName projectName]) ∧
      ((∀ c ∈ projectName.toList, isWhiteSpace c = true ∧ isControl c = false) →
        stem = "project") ∧
      (projectName ≠ "" →
        (∀ c ∈ projectName.toList,
          c ∉ ['/', '\\', ':', '*', '?', '"', '<', '>', '|'] ∧ isControl c = false) →
        IsTrimmed projectName.toList → stem = projectName) := by
  have hentry := isEntryName_scriptFileName projectName
  have htrimmed := isTrimmed_scriptStem projectName
  refine ⟨scriptStem projectName, rfl, scriptStem_ne_empty projectName, fun c hc => ?_, fun c hc => ?_,
    htrimmed.last, hentry.ne_here, hentry.ne_parent, fun directory => ?_,
    fun t directory place hopens => ?_, scriptStem_of_blank, fun hne hplain htrim => ?_⟩
  · exact isPathHostile_eq_false_iff.mp (not_isPathHostile_of_mem_scriptFileName hc)
  · -- The first character of the name is the first of the stem, which is not empty.
    have hstem : (scriptStem projectName).toList ≠ [] :=
      fun hnil => scriptStem_ne_empty projectName (String.toList_eq_nil_iff.mp hnil)
    obtain ⟨d, ds, hcons⟩ := List.exists_cons_of_ne_nil hstem
    rw [toList_scriptFileName, hcons] at hc
    exact htrimmed.head c (by rw [hcons]; exact hc)
  · exact pathNames_joinPath directory hentry.noSlash
  · exact hopens.reaches.locate hentry
  · exact scriptStem_of_plain hne (fun c hc => isPathHostile_eq_false_iff.mpr (hplain c hc)) htrim

/-- A directory for scripts beside the working directory. -/
def scriptTree : FileTree where
  nodes := [(["home"], .directory), (["out"], .directory)]
  working := ["home"]

theorem scriptFileName_safe_names :
    scriptFileName "\u3000 " = "project.sql" ∧ scriptFileName "ユーザー 2" = "ユーザー 2.sql" ∧
      scriptTree.locate (joinPath "/out/" (scriptFileName " ../shop "))
        = .ok ["out", ".._shop.sql"] ∧
      scriptTree.locate (joinPath "../out" (scriptFileName " ../shop "))
        = .ok ["out", ".._shop.sql"] := by
  obtain ⟨blank, hblank, -, -, -, -, -, -, -, -, hproject, -⟩ := scriptFileName_safe "\u3000 "
  obtain ⟨plain, hplain, -, -, -, -, -, -, -, -, -, hkept⟩ := scriptFileName_safe "ユーザー 2"
  obtain ⟨_, -, -, -, -, -, -, -, -, hlocate, -⟩ := scriptFileName_safe " ../shop "
  have hroot : scriptTree.Opens "/out/" ["out"] := ⟨by decide, rfl⟩
  have hadmits : FileTree.admits "/out/" (scriptFileName " ../shop ") = .ok () := by decide
  have hbeside : scriptTree.Opens "../out" ["out"] := ⟨by decide, rfl⟩
  have hadmits' : FileTree.admits "../out" (scriptFileName " ../shop ") = .ok () := by decide
  have hspaces : ∀ c ∈ "\u3000 ".toList, isWhiteSpace c = true ∧ isControl c = false := by
    have hall : "\u3000 ".toList.all (fun c => isWhiteSpace c && !isControl c) = true := by decide
    intro c hc
    simpa using List.all_eq_true.mp hall c hc
  have hplainName : ∀ c ∈ "ユーザー 2".toList, isPathHostile c = false := by
    have hall : "ユーザー 2".toList.any isPathHostile = false := by decide
    exact fun c hc => Bool.eq_false_iff.mpr (List.any_eq_false.mp hall c hc)
  refine ⟨?_, ?_, ?_, ?_⟩
  · rw [hblank, hproject hspaces]
    rfl
  · rw [hplain, hkept (by decide) (fun c hc => isPathHostile_eq_false_iff.mp (hplainName c hc))
      (trimChars_eq_self_iff.mp (by decide))]
    rfl
  · rw [hlocate _ _ _ hroot, hadmits]
    decide
  · rw [hlocate _ _ _ hbeside, hadmits']
    decide

end SchemaScript
