/-!
Texts and byte strings, and the slices that offsets cut out of them. A slice takes any two
integers: what lies outside the sequence is cut away, so a slice never fails.
-/

set_option autoImplicit false

namespace SourceLocator

-- A text is the sequence of its characters; offsets count characters.
abbrev Text := List Char

abbrev Bytes := List UInt8

instance : Coe String Text := ⟨String.toList⟩

-- Where a slice bound falls among `n` items: below zero it counts from the end, and what is still
-- outside is moved to the nearer end.
def bound (n : Nat) (i : Int) : Nat := if i < 0 then (n + i).toNat else min i.toNat n

theorem bound_le (n : Nat) (i : Int) : bound n i ≤ n := by
  unfold bound
  split <;> omega

theorem bound_ofNat (n i : Nat) : bound n i = min i n := by
  unfold bound
  split <;> omega

def slice {α : Type} (items : List α) (start stop : Int) : List α :=
  (items.take (bound items.length stop)).drop (bound items.length start)

theorem slice_length {α : Type} (items : List α) (start stop : Int) :
    (slice items start stop).length = bound items.length stop - bound items.length start := by
  have := bound_le items.length stop
  rw [slice, List.length_drop, List.length_take]
  omega

theorem slice_ofNat {α : Type} (items : List α) (i j : Nat) (h : j ≤ items.length) :
    slice items i j = (items.take j).drop i := by
  simp only [slice, bound_ofNat, Nat.min_eq_left h]
  by_cases hi : i ≤ items.length
  · rw [Nat.min_eq_left hi]
  · rw [Nat.min_eq_right (by omega), List.drop_eq_nil_of_le (by rw [List.length_take]; omega),
      List.drop_eq_nil_of_le (by rw [List.length_take]; omega)]

namespace Text

def ofNat (n : Nat) : Text := Nat.toDigits 10 n

def ofInt : Int → Text
  | .ofNat n => ofNat n
  | .negSucc n => '-' :: ofNat (n + 1)

def join (separator : Text) : List Text → Text
  | [] => []
  | [item] => item
  | item :: rest => item ++ separator ++ join separator rest

-- The pieces between the characters of a class; there is always at least one piece.
def splitBy (p : Char → Bool) : Text → List Text
  | [] => [[]]
  | c :: rest =>
    if p c then [] :: splitBy p rest
    else match splitBy p rest with
      | [] => [[c]]
      | piece :: more => (c :: piece) :: more

def dropEndWhile (p : Char → Bool) (text : Text) : Text := (text.reverse.dropWhile p).reverse

def startsWith (text pfx : Text) : Bool := pfx.isPrefixOf text

-- Cuts a text to a length: whole if it fits, else its beginning with the ellipsis at the end, and a
-- bare beginning where the ellipsis itself leaves no room.
def truncate (text : Text) (length : Int) (ellipsis : Text) : Text :=
  if text.length ≤ length then text
  else if length ≤ ellipsis.length then slice text 0 (max length 0)
  else slice text 0 (length - ellipsis.length) ++ ellipsis

end Text

end SourceLocator
