import MediaGateway.Chain.CallInfo
import MediaGateway.Proofs.Storage.Described

/-!
# Where paths are cut

The folder of a file is all of its path up to the last slash, and the short name of a call is all
of its path behind the last slash. So any path is its folder and its short name.
-/

namespace MediaGateway

open Chain (CallInfo lastSegment)

namespace Chain

/-- A character is no slash where there is none. -/
theorem ne_slash_of_plain {chars : List Char} (plain : '/' ∉ chars) :
    ∀ char ∈ chars.reverse, decide (char ≠ '/') = true := by
  intro char member
  rw [decide_eq_true_eq]
  rintro rfl
  exact plain (List.mem_reverse.mp member)

/-- Without a slash all is the last segment. -/
theorem lastSegment_of_plain {chars : List Char} (plain : '/' ∉ chars) :
    lastSegment chars = chars := by
  rw [lastSegment, List.takeWhile_eq_self_iff.mpr (ne_slash_of_plain plain), List.reverse_reverse]

/-- What stands behind the last slash is the last segment. -/
theorem lastSegment_behind (front : List Char) {back : List Char} (plain : '/' ∉ back) :
    lastSegment (front ++ '/' :: back) = back := by
  rw [lastSegment, List.reverse_append, List.reverse_cons, List.append_assoc,
    List.takeWhile_append_of_pos (ne_slash_of_plain plain), List.singleton_append,
    List.takeWhile_cons_of_neg (by decide), List.append_nil, List.reverse_reverse]

end Chain

namespace Storage

/-- A text with a slash at its end in characters. -/
theorem toList_slash (front : String) : (front ++ "/").toList = front.toList ++ ['/'] := by
  have hs : ("/").toList = ['/'] := rfl
  rw [String.toList_append, hs]

/-- The short name of a call stands behind the folder of its path. -/
theorem method_of_folder {path folder name : String} (whole : path = folder ++ name)
    (plain : '/' ∉ name.toList) (ends : folder = "" ∨ ∃ front : String, folder = front ++ "/") :
    (CallInfo.ofPath path).method = name := by
  have hl : lastSegment path.toList = name.toList := by
    rcases ends with rfl | ⟨front, rfl⟩
    · rw [whole, String.empty_append]
      exact Chain.lastSegment_of_plain plain
    · rw [whole, String.toList_append, toList_slash, List.append_assoc, List.singleton_append]
      exact Chain.lastSegment_behind front.toList plain
  rw [CallInfo.ofPath, hl, String.ofList_toList]

/-- The longest beginning of a path that ends in a slash. -/
structure IsLongestFolder (path folder : String) : Prop where
  /-- The path begins with it. -/
  begins : ∃ rest, path = folder ++ rest
  /-- It ends in a slash. -/
  ends : ∃ front, folder = front ++ "/"
  /-- It begins with every other beginning that ends in a slash. -/
  longest : ∀ front rest, path = front ++ "/" ++ rest → ∃ more, folder = front ++ "/" ++ more

/-- A beginning that ends in a slash does not reach into what has none. -/
theorem begins_before_plain {folder name front rest : String} (plain : '/' ∉ name.toList)
    (same : folder ++ name = front ++ "/" ++ rest) : ∃ more, folder = front ++ "/" ++ more := by
  have hc : folder.toList ++ name.toList = (front.toList ++ ['/']) ++ rest.toList := by
    rw [← toList_slash, ← String.toList_append, ← String.toList_append, same]
  rcases List.append_eq_append_iff.mp hc with ⟨more, longer, hn⟩ | ⟨more, shorter, -⟩
  · -- What the beginning has more than the folder ends in its slash, unless it is nothing.
    rcases List.eq_nil_or_concat more with rfl | ⟨more, last, rfl⟩
    · rw [List.append_nil] at longer
      refine ⟨"", ?_⟩
      rw [String.append_empty, ← String.toList_inj, toList_slash, longer]
    · rw [List.concat_eq_append] at longer hn
      rw [← List.append_assoc] at longer
      obtain ⟨-, hl⟩ := List.append_inj' longer rfl
      obtain rfl : '/' = last := (List.cons.inj hl).1
      refine absurd ?_ plain
      rw [hn]
      exact List.mem_append_left _ (List.mem_append_right _ List.mem_cons_self)
  · refine ⟨String.ofList more, ?_⟩
    rw [← String.toList_inj, String.toList_append, toList_slash, String.toList_ofList, shorter]

/-- A path is its folder and the short name of a call behind it. The short name has no slash. The
folder is empty exactly when the path has no slash, and else the longest beginning that ends in
one. The short name of a short name is itself. -/
theorem path_cut_at_last_slash (path : String) :
    folderOf path ++ (CallInfo.ofPath path).method = path ∧
      '/' ∉ (CallInfo.ofPath path).method.toList ∧
      (folderOf path = "" ↔ '/' ∉ path.toList) ∧
      ('/' ∈ path.toList → IsLongestFolder path (folderOf path)) ∧
      (CallInfo.ofPath (CallInfo.ofPath path).method).method = (CallInfo.ofPath path).method := by
  obtain ⟨name, whole, plain, ends⟩ := isFolder_folderOf path
  have named : (CallInfo.ofPath path).method = name := method_of_folder whole plain ends
  have again : (CallInfo.ofPath name).method = name :=
    method_of_folder String.empty_append.symm plain (.inl rfl)
  have slash : ∀ front : String, folderOf path = front ++ "/" → '/' ∈ path.toList := by
    intro front hf
    rw [whole, hf, String.toList_append, toList_slash]
    exact List.mem_append_left _ (List.mem_append_right _ List.mem_cons_self)
  rw [named]
  refine ⟨whole.symm, plain, ⟨fun none_there => ?_, fun no_slash => ?_⟩, fun some_slash => ?_, again⟩
  · rwa [whole, none_there, String.empty_append]
  · rcases ends with none_there | ⟨front, hf⟩
    · exact none_there
    · exact absurd (slash front hf) no_slash
  · refine ⟨⟨name, whole⟩, ?_, fun front rest same => begins_before_plain plain (whole ▸ same)⟩
    rcases ends with none_there | ended
    · rw [whole, none_there, String.empty_append] at some_slash
      exact absurd some_slash plain
    · exact ended

end Storage

end MediaGateway
