import Docket.Expression.Argument
import Docket.Proofs.Expression.Segment

/-! The arguments of a call stand in the text between its parentheses, so they are shorter. -/

namespace Docket

namespace Text

/-- A trimmed text stands in the text. -/
theorem trim_isInfix (text : Text) : trim text <:+: text := by
  -- Trimming drops a front and then an end.
  have back : trim text <+: trimStart text := by
    -- What is dropped from the reverse is dropped at the end.
    have behind := List.dropWhile_suffix (l := (trimStart text).reverse) isBlank
    simpa [trim, trimEnd] using List.reverse_prefix.mpr behind
  have front : trimStart text <:+ text := List.dropWhile_suffix isBlank
  exact back.isInfix.trans front.isInfix

/-- White space in front of a text goes when the text is trimmed. -/
theorem trim_append {front : Text} (blank : blank front = true) (text : Text) :
    trim (front ++ text) = trim text := by
  rw [trim, trim, trimStart, trimStart, List.dropWhile_append_of_pos (List.all_eq_true.mp blank)]

/-- A text stays when it is trimmed if there is no white space at its ends. -/
theorem trim_eq_self {text : Text} (front : text.head?.any isBlank = false)
    (back : text.getLast?.any isBlank = false) : trim text = text := by
  -- Nothing is dropped at the front, and nothing at the front of the reversed text.
  have start : text.dropWhile isBlank = text := by
    cases text with
    | nil => rfl
    | cons char rest => exact List.dropWhile_cons_of_neg (by simpa using front)
  have stop : text.reverse.dropWhile isBlank = text.reverse := by
    rw [List.getLast?_eq_head?_reverse] at back
    cases reversed : text.reverse with
    | nil => rfl
    | cons char rest =>
      rw [reversed] at back
      exact List.dropWhile_cons_of_neg (by simpa using back)
  rw [trim, trimStart, start, trimEnd, stop, List.reverse_reverse]

end Text

namespace Argument

/-- A text without its quotation marks stands in the text. -/
theorem unquote_isInfix (text : Text) : unquote text <:+: text := by
  -- Either the two outermost characters go or nothing does.
  unfold unquote
  split
  · rename_i mark rest
    split
    · have inner : rest.dropLast <:+: rest := (List.dropLast_prefix rest).isInfix
      exact inner.trans (List.suffix_cons mark rest).isInfix
    · exact List.infix_rfl
  · exact List.infix_rfl

/-- The argument for a piece stands in the piece. -/
theorem ofPiece_isInfix (piece : Text) : ofPiece piece <:+: piece :=
  (unquote_isInfix (Text.trim piece)).trans (Text.trim_isInfix piece)

/-- The pieces of a text follow one another in it: the first stands at its front, the others
somewhere behind. -/
inductive Pieced (text : Text) : List Text → Prop where
  | cut (first : Text) (others : List Text) (front : first <+: text)
      (behind : ∀ piece ∈ others, piece <:+: text) : Pieced text (first :: others)

/-- A character in front of a text belongs to its first piece. -/
theorem Pieced.extend {char : Char} {rest : Text} {pieces : List Text}
    (pieced : Pieced rest pieces) : Pieced (char :: rest) (extend char pieces) := by
  obtain ⟨first, others, front, behind⟩ := pieced
  refine .cut (char :: first) others (List.prefix_cons_inj char |>.mpr front) ?_
  intro piece inside
  exact (behind piece inside).trans (List.suffix_cons char rest).isInfix

/-- A comma in front of a text ends an empty piece. -/
theorem Pieced.cons {char : Char} {rest : Text} {pieces : List Text}
    (pieced : Pieced rest pieces) : Pieced (char :: rest) ([] :: pieces) := by
  obtain ⟨first, others, front, behind⟩ := pieced
  refine .cut [] (first :: others) List.nil_prefix ?_
  intro piece inside
  -- The pieces of the rest are parts of it, and so of the whole.
  have within : piece <:+: rest := by
    rcases List.mem_cons.mp inside with rfl | inside
    · exact front.isInfix
    · exact behind piece inside
  exact within.trans (List.suffix_cons char rest).isInfix

/-- Every piece stands in the text that is cut. -/
theorem pieced_pieces (depth : Int) (quote : Option Char) (text : Text) :
    Pieced text (pieces depth quote text) := by
  -- A character is a comma between pieces, or it belongs to the first piece of what follows.
  induction text generalizing depth quote with
  | nil => exact .cut [] [] List.prefix_rfl (by simp)
  | cons char rest ih =>
    cases quote with
    | some mark =>
      -- Inside quotes nothing is cut.
      exact (ih depth _).extend
    | none =>
      simp only [pieces]
      split
      · exact (ih depth _).extend
      · split
        · exact (ih (depth + 1) none).extend
        · split
          · exact (ih (depth - 1) none).extend
          · split
            · -- This comma stands outside quotes and parentheses.
              exact (ih depth none).cons
            · exact (ih depth none).extend

/-- A piece of a text stands in the text. -/
theorem infix_of_mem_pieces {depth : Int} {quote : Option Char} {text piece : Text}
    (inside : piece ∈ pieces depth quote text) : piece <:+: text := by
  -- A piece is the first one or one of the others.
  have cut := pieced_pieces depth quote text
  generalize pieces depth quote text = parts at cut inside
  obtain ⟨first, others, front, behind⟩ := cut
  rcases List.mem_cons.mp inside with rfl | inside
  · exact front.isInfix
  · exact behind piece inside

/-- Dropping a blank last piece brings no new piece. -/
theorem mem_of_mem_dropBlankLast {pieces : List Text} {piece : Text}
    (inside : piece ∈ dropBlankLast pieces) : piece ∈ pieces := by
  unfold dropBlankLast at inside
  split at inside
  · split at inside
    · exact (List.dropLast_prefix pieces).subset inside
    · exact inside
  · exact absurd inside List.not_mem_nil

/-- An argument stands in the text that is split. -/
theorem infix_of_mem_split {inner argument : Text} (inside : argument ∈ split inner) :
    argument <:+: inner := by
  -- An argument comes from a piece, and a piece from the text.
  unfold split at inside
  split at inside
  · exact absurd inside List.not_mem_nil
  · obtain ⟨piece, among, rfl⟩ := List.mem_map.mp inside
    have part := infix_of_mem_pieces (mem_of_mem_dropBlankLast among)
    exact (ofPiece_isInfix piece).trans part

end Argument

namespace Call

/-- The text between the parentheses of a call stands in its source. -/
theorem inner_infix_source (call : Call) : call.inner <:+: call.source :=
  ⟨call.name ++ ['('], [')'], by simp [source]⟩

/-- An argument of a call stands in its source. -/
theorem infix_source_of_mem_arguments {call : Call} {argument : Text}
    (inside : argument ∈ call.arguments) : argument <:+: call.source :=
  (Argument.infix_of_mem_split inside).trans call.inner_infix_source

/-- An argument of a call is shorter than its source. -/
theorem length_lt_of_mem_arguments {call : Call} {argument : Text}
    (inside : argument ∈ call.arguments) : argument.length < call.source.length := by
  -- The parentheses belong to the source and to no argument.
  have part := (Argument.infix_of_mem_split inside).length_le
  simp only [source, List.length_append, List.length_cons]
  omega

/-- An argument of a call of a text stands in the text. -/
theorem argument_isInfix {text argument : Text} {call : Call} (found : call ∈ all text)
    (inside : argument ∈ call.arguments) : argument <:+: text :=
  (infix_source_of_mem_arguments inside).trans (source_infix_of_mem_all found)

/-- An argument of a call of a text is shorter than the text. -/
theorem argument_length_lt {text argument : Text} {call : Call} (found : call ∈ all text)
    (inside : argument ∈ call.arguments) : argument.length < text.length :=
  Nat.lt_of_lt_of_le (length_lt_of_mem_arguments inside) (source_infix_of_mem_all found).length_le

end Call

end Docket
