import Mathlib.Data.List.Induction
import Mathlib.Data.Prod.Lex
import LoadScript.Proofs.SortedProblems
import LoadScript.Proofs.Text.Slice

set_option autoImplicit false
set_option relaxedAutoImplicit false

namespace LoadScript

open Text

namespace Text

variable {text : List Char}

theorem frontWithin_zero (text : List Char) : frontWithin 0 text = [] := by
  cases text with
  | nil => rfl
  | cons c rest =>
    have hpos := c.utf8Size_pos
    rw [frontWithin, if_neg (by omega)]

theorem frontWithin_append (front back : List Char) (extra : Nat) :
    frontWithin (byteLength front + extra) (front ++ back) = front ++ frontWithin extra back := by
  induction front with
  | nil => rw [byteLength, Nat.zero_add, List.nil_append, List.nil_append]
  | cons c rest ih =>
    have hrest : byteLength (c :: rest) + extra - c.utf8Size = byteLength rest + extra := by
      rw [byteLength]
      omega
    rw [List.cons_append, frontWithin, if_pos (by rw [byteLength]; omega), hrest, ih, List.cons_append]

theorem frontWithin_byteLength (front back : List Char) :
    frontWithin (byteLength front) (front ++ back) = front := by
  have h := frontWithin_append front back 0
  rwa [Nat.add_zero, frontWithin_zero, List.append_nil] at h

theorem frontWithin_isPrefix_of_le {a b : Nat} (h : a ≤ b) :
    frontWithin a text <+: frontWithin b text := by
  induction text generalizing a b with
  | nil => exact List.nil_prefix
  | cons c rest ih =>
    rw [frontWithin]
    split
    · next hfits =>
      rw [frontWithin, if_pos (Nat.le_trans hfits h), List.cons_prefix_cons]
      exact ⟨rfl, ih (Nat.sub_le_sub_right h c.utf8Size)⟩
    · exact List.nil_prefix

theorem frontWithin_min (limit : Nat) (text : List Char) :
    frontWithin (min limit (byteLength text)) text = frontWithin limit text := by
  induction text generalizing limit with
  | nil => rfl
  | cons c rest ih =>
    by_cases hfits : c.utf8Size ≤ limit
    · have hmin : min limit (byteLength (c :: rest)) - c.utf8Size = min (limit - c.utf8Size) (byteLength rest) := by
        rw [byteLength]
        omega
      rw [frontWithin, if_pos (by rw [byteLength]; omega), hmin, ih, frontWithin, if_pos hfits]
    · rw [frontWithin, if_neg (by omega), frontWithin, if_neg hfits]

/-- The characters of a text that starts at an offset, each with the offset behind it. -/
def withEnds (offset : Nat) : List Char → List (Char × Nat)
  | [] => []
  | c :: rest => (c, offset + c.utf8Size) :: withEnds (offset + c.utf8Size) rest

theorem le_of_mem_withEnds {offset : Nat} {e : Char × Nat} (h : e ∈ withEnds offset text) : offset ≤ e.2 := by
  induction text generalizing offset with
  | nil => exact absurd h List.not_mem_nil
  | cons c rest ih =>
    rcases List.mem_cons.1 h with rfl | h
    · exact Nat.le_add_right offset c.utf8Size
    · exact Nat.le_of_add_right_le (ih h)

theorem map_fst_filter_withEnds {offset limit : Nat} (h : offset ≤ limit) :
    ((withEnds offset text).filter fun e => e.2 ≤ limit).map Prod.fst = frontWithin (limit - offset) text := by
  induction text generalizing offset with
  | nil => rfl
  | cons c rest ih =>
    rw [withEnds, frontWithin]
    by_cases hfits : offset + c.utf8Size ≤ limit
    · rw [List.filter_cons_of_pos (by simpa using hfits), List.map_cons, ih hfits, if_pos (by omega), Nat.sub_sub]
    · have hrest : (withEnds (offset + c.utf8Size) rest).filter (fun e => e.2 ≤ limit) = [] := by
        rw [List.filter_eq_nil_iff]
        intro e he
        have hle := le_of_mem_withEnds he
        simpa using show limit < e.2 by omega
      rw [List.filter_cons_of_neg (by simpa using hfits), hrest, if_neg (by omega), List.map_nil]

end Text

namespace Position

def next (p : Position) (c : Char) : Position :=
  if c = '\n' then ⟨p.line + 1, 1⟩ else ⟨p.line, p.column + 1⟩

/-- Where a walk from the start of a source leads over the characters that end at or before an offset. -/
def walk (source : List Char) (offset : Nat) : Position :=
  (((withEnds 0 source).filter fun e => e.2 ≤ min offset (byteLength source)).map Prod.fst).foldl next ⟨1, 1⟩

def rank (p : Position) : Nat ×ₗ Nat :=
  toLex (p.line, p.column)

theorem behind_append_singleton (text : List Char) (c : Char) : behind (text ++ [c]) = (behind text).next c := by
  rw [next]
  split
  · next hc => simp [behind, hc]
  · next hc => simp [behind, hc]

theorem behind_eq_foldl (text : List Char) : behind text = text.foldl next ⟨1, 1⟩ := by
  induction text using List.reverseRecOn with
  | nil => rfl
  | append_singleton text c ih => rw [behind_append_singleton, ih, List.foldl_append, List.foldl_cons, List.foldl_nil]

theorem ofOffset_eq_walk (source : List Char) (offset : Nat) : ofOffset source offset = walk source offset := by
  rw [walk, map_fst_filter_withEnds (Nat.zero_le _), Nat.sub_zero, frontWithin_min, ← behind_eq_foldl, ofOffset]

theorem rank_lt_rank_next (p : Position) (c : Char) : p.rank < (p.next c).rank := by
  rw [rank, rank, Prod.Lex.toLex_lt_toLex, next]
  split
  · exact Or.inl (Nat.lt_succ_self p.line)
  · exact Or.inr ⟨rfl, Nat.lt_succ_self p.column⟩

theorem rank_lt_rank_foldl (p : Position) {text : List Char} (h : text ≠ []) : p.rank < (text.foldl next p).rank := by
  induction text generalizing p with
  | nil => exact absurd rfl h
  | cons c rest ih =>
    rw [List.foldl_cons]
    rcases eq_or_ne rest [] with rfl | hrest
    · exact rank_lt_rank_next p c
    · exact lt_trans (rank_lt_rank_next p c) (ih (p.next c) hrest)

theorem rank_behind_lt {front : List Char} {more : List Char} (h : more ≠ []) :
    (behind front).rank < (behind (front ++ more)).rank := by
  rw [behind_eq_foldl, behind_eq_foldl, List.foldl_append]
  exact rank_lt_rank_foldl _ h

theorem rank_behind_le_of_isPrefix {a b : List Char} (h : a <+: b) : (behind a).rank ≤ (behind b).rank := by
  obtain ⟨more, rfl⟩ := h
  rcases eq_or_ne more [] with rfl | hmore
  · rw [List.append_nil]
  · exact le_of_lt (rank_behind_lt hmore)

theorem monotone_rank_ofOffset (source : List Char) : Monotone fun offset => (ofOffset source offset).rank :=
  fun _ _ h => rank_behind_le_of_isPrefix (frontWithin_isPrefix_of_le h)

theorem exists_of_isValid {source : List Char} {offset : Nat}
    (h : (String.Pos.Raw.mk offset).IsValid (String.ofList source)) :
    ∃ front back, source = front ++ back ∧ byteLength front = offset := by
  obtain ⟨front, back, hsource, hoffset⟩ := String.Pos.Raw.isValid_iff_exists_append.1 h
  refine ⟨front.toList, back.toList, ?_, ?_⟩
  · rw [← String.toList_append, ← hsource, String.toList_ofList]
  · have hbytes := congrArg String.Pos.Raw.byteIdx hoffset
    rw [String.byteIdx_rawEndPos] at hbytes
    rw [← utf8ByteSize_ofList, String.ofList_toList]
    exact hbytes.symm

theorem strictMonoOn_rank_ofOffset (source : List Char) :
    StrictMonoOn (fun offset => (ofOffset source offset).rank)
      {offset | (String.Pos.Raw.mk offset).IsValid (String.ofList source)} := by
  intro a ha b hb hlt
  obtain ⟨front, back, rfl, rfl⟩ := exists_of_isValid ha
  obtain ⟨longer, rest, hsource, rfl⟩ := exists_of_isValid hb
  have hfront : frontWithin (byteLength front) (front ++ back) = front := frontWithin_byteLength front back
  have hlonger : frontWithin (byteLength longer) (front ++ back) = longer := by
    rw [hsource]
    exact frontWithin_byteLength longer rest
  obtain ⟨more, hmore⟩ : front <+: longer := by
    have hfronts : frontWithin (byteLength front) (front ++ back) <+: frontWithin (byteLength longer) (front ++ back) :=
      frontWithin_isPrefix_of_le (Nat.le_of_lt hlt)
    rwa [hfront, hlonger] at hfronts
  have hne : more ≠ [] := by
    rintro rfl
    rw [← hmore, List.append_nil] at hlt
    exact Nat.lt_irrefl _ hlt
  change (behind (frontWithin (byteLength front) (front ++ back))).rank <
    (behind (frontWithin (byteLength longer) (front ++ back))).rank
  rw [hfront, hlonger, ← hmore]
  exact rank_behind_lt hne

end Position

/-- The position of an offset is where a walk over the characters that end at or before it leads. Between two characters
a later offset has a later position, and the reports of the problems of a script name their positions in order. -/
theorem positions_follow_walk (source : List Char) :
    (∀ offset, Position.ofOffset source offset = Position.walk source offset) ∧
      StrictMonoOn (fun offset => (Position.ofOffset source offset).rank)
        {offset | (String.Pos.Raw.mk offset).IsValid (String.ofList source)} ∧
      ∀ (v : Vocabulary) (limit : Nat),
        ((readScript v limit source).problems.map fun p => (Position.walk source p.offset).rank).Pairwise (· ≤ ·) ∧
          ∀ path, (readScript v limit source).problems.map (Problem.report path source) =
            (readScript v limit source).problems.map fun p =>
              path ++ ":" ++ (toString (Position.walk source p.offset).line ++ ":" ++
                toString (Position.walk source p.offset).column) ++ ": " ++ p.message := by
  refine ⟨Position.ofOffset_eq_walk source, Position.strictMonoOn_rank_ofOffset source, fun v limit => ⟨?_, ?_⟩⟩
  · rw [List.pairwise_map]
    refine (pairwise_sortProblems _).imp fun {p q} h => ?_
    rw [← Position.ofOffset_eq_walk, ← Position.ofOffset_eq_walk]
    exact Position.monotone_rank_ofOffset source h
  · intro path
    refine List.map_congr_left fun p _ => ?_
    rw [Problem.report, Position.text, Position.ofOffset_eq_walk]

-- the fourth byte is the second one of a character on the second line
example : Position.ofOffset "a\nÿ;".toList 3 = ⟨2, 1⟩ ∧ Position.ofOffset "a\nÿ;".toList 99 = ⟨2, 3⟩ := by decide

end LoadScript
