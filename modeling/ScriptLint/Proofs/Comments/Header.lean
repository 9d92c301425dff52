import ScriptLint.Proofs.Comments.Remarks
import ScriptLint.Proofs.Header

/-!
# Comments behind a header

The reader of headers stops at a comment.  Whatever is wrong with the line is wrong with a comment
behind it, too, except where the comment stands directly behind the keyword.
-/

namespace ScriptLint

open Text

namespace Header

/-- What is wrong according to a reading. -/
def fault? : Except Blame Header → Option Fault
  | .error blame => some blame.fault
  | .ok _ => none

section

variable {line name rest : List Char}

/-- Flags are read up to the comment. -/
theorem fault?_complete_append_remark (parent : Option (List Char)) (noMarker : ';' ∉ rest)
    (comment : List Char) :
    fault? (complete (line ++ remark comment) name parent (rest ++ remark comment)) =
      fault? (complete line name parent rest) := by
  have inFront : ∀ c ∈ rest, (c != commentMarker) = true := by
    intro c member
    rw [bne_iff_ne]
    rintro rfl
    exact noMarker member
  have kept : rest.takeWhile (· != commentMarker) = rest := by
    have whole := takeWhile_append_stops inFront (stops_nil _)
    rwa [List.append_nil] at whole
  have keptBefore : (rest ++ remark comment).takeWhile (· != commentMarker) = rest ++ [' '] := by
    have spaced : ∀ c ∈ rest ++ [' '], (c != commentMarker) = true :=
      List.forall_mem_append.mpr ⟨inFront, List.forall_mem_singleton.mpr (by decide)⟩
    have whole := takeWhile_append_stops spaced
      (stops_cons.mpr (by decide) : Stops (· != commentMarker) (';' :: comment))
    rwa [List.append_assoc] at whole
  have offset : byteLength (line ++ remark comment) - byteLength (rest ++ remark comment) =
      byteLength line - byteLength rest := by
    rw [byteLength_append, byteLength_append, Nat.add_sub_add_right]
  rw [complete, complete, kept, keptBefore, offset, tokens_concat_space]
  cases readFlags maxFlags (tokens (byteLength line - byteLength rest) rest) <;> rfl

end

/-- A clause for the parent is read as before. -/
theorem parentClause?_append_remark (text comment : List Char) :
    parentClause? (text ++ remark comment) =
      (parentClause? text).map fun clause =>
        { clause with
          afterKeyword := clause.afterKeyword ++ remark comment
          rest := clause.rest ++ remark comment } := by
  have keywordRead : afterKeyword? parentKeyword.toList (afterSpace (text ++ remark comment)) =
      (afterKeyword? parentKeyword.toList (afterSpace text)).map (· ++ remark comment) :=
    afterKeyword?_afterSpace_append_remark (by decide) (by decide) (by decide) text comment
  rw [parentClause?, parentClause?, keywordRead]
  by_cases empty : text = []
  · rw [empty]
    rfl
  · rw [startsSpace_append_remark comment empty]
    split_ifs with starts
    · cases found : afterKeyword? parentKeyword.toList (afterSpace text) with
      | none => rfl
      | some behind =>
          simp only [Option.map_some, word_afterSpace_append_remark]
          by_cases unnamed : word (afterSpace behind) = []
          · simp [unnamed]
          · have nonempty : behind ≠ [] := by
              rintro rfl
              exact unnamed rfl
            rw [startsSpace_append_remark comment nonempty,
              afterWord_afterSpace_append_remark comment unnamed]
            split_ifs <;> rfl
    · rfl

theorem fault?_readTail_append_remark {line name text : List Char} (noMarker : ';' ∉ text)
    (comment : List Char) :
    fault? (readTail (line ++ remark comment) name (text ++ remark comment)) =
      fault? (readTail line name text) := by
  have clauseRead := parentClause?_append_remark text comment
  cases found : parentClause? text with
  | none =>
      rw [found] at clauseRead
      rw [readTail_of_none found, readTail_of_none clauseRead,
        fault?_complete_append_remark none noMarker]
  | some clause =>
      obtain ⟨parent?, behind, rest⟩ := clause
      rw [found] at clauseRead
      cases parent? with
      | none =>
          rw [readTail_of_missing found, readTail_of_missing clauseRead]
          rfl
      | some parent =>
          obtain ⟨front, rfl, -, -⟩ := of_parentClause?_eq_some found
          rw [readTail_of_parent found, readTail_of_parent clauseRead]
          exact fault?_complete_append_remark _ (fun member => noMarker (by simp [member])) comment

/-- A comment behind the line makes no difference to what is wrong with a header, unless it stands
directly behind the keyword: its space is then the one that was missing. -/
theorem fault?_read_append_remark (expected : String) {line : List Char} (noMarker : ';' ∉ line)
    (comment : List Char) :
    fault? (read expected (line ++ remark comment)) = fault? (read expected line) ↔
      line ≠ keyword.toList := by
  have keywordRead := isPrefixOf?_append_remark
    (by decide : ';' ∉ keyword.toList) (by decide) line comment
  cases found : keyword.toList.isPrefixOf? line with
  | none =>
      rw [found] at keywordRead
      have differs : line ≠ keyword.toList := by
        rintro rfl
        exact absurd found (by decide)
      rw [read, read, found, keywordRead]
      exact iff_of_true rfl differs
  | some rest =>
      obtain rfl := List.isPrefixOf?_eq_some_iff_append_eq.mp found
      rw [found] at keywordRead
      by_cases empty : rest = []
      · subst empty
        have before : fault? (read expected (keyword.toList ++ [])) = some .missingSpace := rfl
        have behind : fault? (read expected (keyword.toList ++ [] ++ remark comment)) =
            some .missingName := rfl
        rw [before, behind]
        exact iff_of_false (by decide) (fun differs => differs (List.append_nil _))
      · refine iff_of_true ?_ (fun same => empty (List.append_right_eq_self.mp same))
        rw [read, read, found, keywordRead]
        simp only [Option.map_some, startsSpace_append_remark comment empty,
          word_afterSpace_append_remark]
        split_ifs with starts unnamed same
        · rfl
        · have named : word (afterSpace rest) ≠ [] := by simpa using unnamed
          have tailNoMarker : ';' ∉ afterWord (afterSpace rest) := by
            intro member
            have inRest : ';' ∈ rest :=
              ((List.dropWhile_sublist isWord).trans (List.dropWhile_sublist isSpace)).mem member
            exact noMarker (List.mem_append_right _ inRest)
          rw [afterWord_afterSpace_append_remark comment named]
          exact fault?_readTail_append_remark tailNoMarker comment
        · rfl
        · rfl

end Header

end ScriptLint
