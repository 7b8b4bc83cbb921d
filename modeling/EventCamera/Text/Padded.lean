/-!
# Padding

## Main definitions

* `Text.padded` — a text made up to a width by blanks behind it

## Main results

* `Text.length_padded` — the width that comes out
-/

namespace EventCamera.Text

/-- A text followed by blanks, `width` characters in all if it is shorter. -/
def padded (width : Nat) (text : String) : String :=
  text ++ String.ofList (List.replicate (width - text.length) ' ')

@[simp] theorem length_padded (width : Nat) (text : String) :
    (padded width text).length = max width text.length := by
  simp only [padded, String.length_append, String.length_ofList, List.length_replicate]
  omega

end EventCamera.Text
