import PathSort.Proofs.Text.QuotedText
import PathSort.SortError

/-!
# What an error message tells

No two errors have the same message. Its first letter tells the cause, and behind words that are
always the same stands what the cause is about: quoted, so that it can be read back, or up to the
end of the message.

A message is visible, except for the text that a handler reports about itself.
-/

namespace PathSort.SortError

set_option autoImplicit false

def initial : SortError → Char
  | malformedDirective _ => 'M'
  | invalidDirection _ => 'I'
  | unsupportedJoinPattern _ _ => 'U'
  | custom _ => 'C'

theorem head_append {text : String} {first : Char} (head : text.toList.head? = some first)
    (rest : String) : (text ++ rest).toList.head? = some first := by
  rw [String.toList_append, List.head?_append, head, Option.some_or]

theorem message_head (error : SortError) : error.message.toList.head? = some error.initial := by
  cases error with
  | malformedDirective raw =>
      have words : "Malformed sort directive: ".toList.head? = some 'M' := by decide +kernel
      exact head_append words _
  | invalidDirection text =>
      have words : "Invalid sort direction: ".toList.head? = some 'I' := by decide +kernel
      exact head_append (head_append words _) _
  | unsupportedJoinPattern field segments =>
      have words : "Unsupported join pattern ".toList.head? = some 'U' := by decide +kernel
      exact head_append (head_append (head_append (head_append words _) _) _) _
  | custom text =>
      have words : "Custom sort error: ".toList.head? = some 'C' := by decide +kernel
      exact head_append words _

theorem initial_eq_of_message_eq {error other : SortError}
    (same : error.message = other.message) : error.initial = other.initial := by
  have heads := congrArg (fun text : String => text.toList.head?) same
  simpa only [message_head, Option.some.injEq] using heads

/-- Errors of one cause are told apart by what stands behind the words of the cause. -/
theorem message_inj {error other : SortError} (same : error.message = other.message) :
    error = other := by
  have initials := initial_eq_of_message_eq same
  cases error with
  | malformedDirective raw =>
      cases other with
      | malformedDirective otherRaw =>
          have quotes : Text.quoted raw = Text.quoted otherRaw :=
            (String.append_right_inj "Malformed sort directive: ").mp same
          rw [Text.quoted_inj quotes]
      | _ => simp [initial] at initials
  | invalidDirection text =>
      cases other with
      | invalidDirection otherText =>
          have quotes := (String.append_right_inj "Invalid sort direction: ").mp
            ((String.append_left_inj " (expected \"asc\" or \"desc\")").mp same)
          rw [Text.quoted_inj quotes]
      | _ => simp [initial] at initials
  | unsupportedJoinPattern field segments =>
      cases other with
      | unsupportedJoinPattern otherField otherSegments =>
          have spelled : "Unsupported join pattern " ++ Text.quoted field ++ " (" ++
                Nat.repr segments ++ " segments)" =
              "Unsupported join pattern " ++ Text.quoted otherField ++ " (" ++
                Nat.repr otherSegments ++ " segments)" := same
          rw [String.append_left_inj, String.append_assoc, String.append_assoc,
            String.append_assoc, String.append_assoc, String.append_right_inj] at spelled
          obtain ⟨rfl, counts⟩ := Text.quoted_append_inj spelled
          rw [Text.repr_inj ((String.append_right_inj " (").mp counts)]
      | _ => simp [initial] at initials
  | custom text =>
      cases other with
      | custom otherText =>
          have texts : text = otherText := (String.append_right_inj "Custom sort error: ").mp same
          rw [texts]
      | _ => simp [initial] at initials

theorem visible_malformed (raw : String) :
    Text.Visible (malformedDirective raw).message.toList := by
  have words : Text.Visible "Malformed sort directive: ".toList :=
    Text.visible_ascii (by decide +kernel)
  exact Text.visible_text_append words (Text.visible_quoted raw)

theorem visible_unsupported (field : String) (segments : Nat) :
    Text.Visible (unsupportedJoinPattern field segments).message.toList := by
  have words : Text.Visible "Unsupported join pattern ".toList :=
    Text.visible_ascii (by decide +kernel)
  have opening : Text.Visible " (".toList := Text.visible_ascii (by decide +kernel)
  have closing : Text.Visible " segments)".toList := Text.visible_ascii (by decide +kernel)
  have quotes := Text.visible_text_append words (Text.visible_quoted field)
  have count := Text.visible_text_append (Text.visible_text_append quotes opening)
    (Text.visible_repr segments)
  exact Text.visible_text_append count closing

end PathSort.SortError
