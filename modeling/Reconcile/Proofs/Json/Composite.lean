import Reconcile.Proofs.Json.Text

/-!
# Written lists and structures are read back

A list is taken for the values that its elements are taken for (`Json.takes_array`).  A structure is
written as an object.  If its members fill in the fields that they are named for, one after the
other, then the object is taken for the structure that is made of all of them
(`Json.Fills.takes`).
-/

namespace Reconcile
namespace Json

variable {σ α : Type} {r : Reader α} {a : α} {as : List α} {c : Char} {cs written : List Char}
  {ws : List (List Char)} {input : Input} {enter : σ → α → σ} {s s' s'' : σ} {bound : Nat}

/-! ## Commas -/

/-- What stands in front of a value, unless it is the first. -/
def comma (first : Bool) : List Char := if first then [] else [',']

/-- The values that are left, with their commas. -/
def remaining (first : Bool) : List (List Char) → List Char
  | [] => []
  | written :: ws => comma first ++ (written ++ remaining false ws)

lemma intercalate_comma (ws : List (List Char)) :
    [','].intercalate ws = remaining true ws := by
  induction ws with
  | nil => rfl
  | cons written ws ih =>
    cases ws with
    | nil => simp [remaining, comma]
    | cons next ws =>
      rw [List.intercalate_cons_cons, ih]
      simp [remaining, comma]

/-- Behind a value in a list or an object it goes on or ends. -/
lemma follows_remaining (ws : List (List Char)) (hc : c = ']' ∨ c = '\x7d') (input : Input) :
    ((input.behind [c]).behind (remaining false ws)).Follows := by
  cases ws with
  | nil => exact follows_behind (.inr hc) _ _
  | cons written ws => exact follows_behind (.inl rfl) _ _

lemma length_le_encodeChars (cs : List Char) : cs.length ≤ (Utf8.encodeChars cs).length := by
  induction cs with
  | nil => exact Nat.zero_le _
  | cons c cs ih =>
    have hpos := List.length_pos_of_ne_nil (String.utf8EncodeChar_ne_nil (c := c))
    rw [Utf8.encodeChars_cons, List.length_append, List.length_cons]
    omega

lemma length_le_remaining (ws : List (List Char)) : ws.length ≤ (remaining false ws).length := by
  induction ws with
  | nil => exact Nat.zero_le _
  | cons written ws ih =>
    have hcomma : (comma false).length = 1 := rfl
    rw [remaining, List.length_append, List.length_append, List.length_cons]
    omega

/-- An input has enough bytes for all values in it. -/
lemma length_le_behind (ws : List (List Char)) (input : Input) :
    ws.length ≤ (input.behind (remaining true ws)).bytes.length + 1 := by
  have hlength : ws.length ≤ (remaining true ws).length + 1 := by
    cases ws with
    | nil => exact Nat.zero_le _
    | cons written ws =>
      have hws := length_le_remaining ws
      rw [remaining, List.length_append, List.length_append, List.length_cons]
      omega
  have hchars := length_le_encodeChars (remaining true ws)
  rw [Input.behind, List.length_append]
  omega

/-! ## Lists -/

lemma nextElement_end (first : Bool) (input : Input) :
    Reader.nextElement first (input.behind [']']) = .ok (false, input.behind [']']) := by
  rw [Reader.nextElement, Reader.bind_of_ok (Reader.peekValue_behind (by decide) _ _)]
  rfl

lemma nextElement_behind (first : Bool) (hc : Opens c) (cs : List Char) (input : Input) :
    Reader.nextElement first (input.behind (comma first ++ c :: cs)) =
      .ok (true, input.behind (c :: cs)) := by
  have hvalue := Reader.peekValue_behind hc.1 cs input
  cases first with
  | true =>
    rw [comma, if_pos rfl, List.nil_append, Reader.nextElement, Reader.bind_of_ok hvalue]
    simp only [if_neg hc.2, if_true]
    rfl
  | false =>
    have hbracket : ¬ byte ',' = byte ']' := by decide
    rw [comma, if_neg Bool.false_ne_true, List.singleton_append, Reader.nextElement,
      Reader.bind_of_ok (Reader.peekValue_behind (by decide) _ _)]
    simp only [if_neg hbracket, if_true, Bool.false_eq_true, if_false]
    rw [Reader.bind_of_ok (Reader.skip_behind (by decide) _ _), Reader.bind_of_ok hvalue]
    simp only [if_neg hc.2]
    rfl

/-- The elements that are left of a list are entered in their order. -/
lemma elements_behind (h : List.Forall₂ (Takes r) ws as) (hbound : ws.length ≤ bound)
    (first : Bool) (input : Input) :
    Reader.elements r enter bound first s ((input.behind [']']).behind (remaining first ws)) =
      .ok (as.foldl enter s, input.behind [']']) := by
  induction h generalizing bound first s with
  | nil =>
    cases bound with
    | zero => rfl
    | succ bound =>
      rw [Reader.elements, remaining, Input.behind_nil,
        Reader.bind_of_ok (nextElement_end first input)]
      rfl
  | @cons written a ws as ha h ih =>
    obtain ⟨bound, rfl⟩ : ∃ k, bound = k + 1 := ⟨bound - 1, by simp at hbound; omega⟩
    obtain ⟨c, cs, rfl, hc⟩ := ha.opens
    -- The value ends where the next comma or the bracket stands, and the rest is read from there.
    have hvalue := ha.takes _ (follows_remaining ws (.inl rfl) input)
    rw [← Input.behind_append] at hvalue
    rw [Reader.elements, remaining, List.cons_append,
      Reader.bind_of_ok (nextElement_behind first hc _ _)]
    rw [if_pos rfl, ← List.cons_append, Reader.bind_of_ok hvalue,
      ih (Nat.le_of_succ_le_succ hbound), List.foldl_cons]

lemma takes_listInto (h : List.Forall₂ (Takes r) ws as) (enter : σ → α → σ) (s : σ) :
    Takes (Reader.listInto r enter s) (array ws) (as.foldl enter s) where
  opens := ⟨'[', _, rfl, by decide⟩
  takes input _ := by
    have hend : Reader.listEnd (input.behind [']']) = .ok ((), input) := by
      rw [Reader.listEnd, Reader.bind_of_ok (Reader.peekValue_behind (by decide) _ _)]
      exact Reader.skip_behind (by decide) [] input
    rw [array, intercalate_comma, List.cons_append, Reader.listInto,
      Reader.bind_of_ok (Reader.valueStart_behind (by decide) _ _)]
    rw [if_pos rfl, Reader.bind_of_ok (Reader.skip_behind (by decide) _ _), Input.behind_append,
      Reader.bind_of_ok (Reader.get_apply _),
      Reader.bind_of_ok (elements_behind h (length_le_behind ws _) true input),
      Reader.bind_of_ok hend]
    rfl

/-- A list is taken for the values of its elements. -/
lemma takes_array (h : List.Forall₂ (Takes r) ws as) : Takes (Reader.list r) (array ws) as := by
  have hlist := (takes_listInto h (fun l a => a :: l) []).map List.reverse
  rwa [List.foldl_flip_cons_eq_append', List.append_nil, List.reverse_reverse] at hlist

/-! ## Structures -/

namespace Form

variable {f : Form σ α} {field : Field σ} {key : String}
  {entries entries' : List (String × List Char)}

/-- The members `entries` of an object fill in fields: read into `s` they make `s'`. -/
inductive Fills (f : Form σ α) : σ → List (String × List Char) → σ → Prop
  | nil (s : σ) : Fills f s [] s
  | cons {key : String} {field : Field σ} {s s' s'' : σ} {written : List Char}
      {entries : List (String × List Char)}
      (found : f.fields.find? (fun field => field.label = key) = some field)
      (unset : field.isSet s = false) (takes : Takes (field.read s) written s')
      (rest : Fills f s' entries s'') : Fills f s ((key, written) :: entries) s''

lemma Fills.append (h : Fills f s entries s') (h' : Fills f s' entries' s'') :
    Fills f s (entries ++ entries') s'' := by
  induction h with
  | nil => exact h'
  | cons found unset takes _ ih => exact .cons found unset takes (ih h')

lemma nextKey_end (first : Bool) (input : Input) :
    Reader.nextKey first (input.behind ['\x7d']) = .ok (none, input.behind ['\x7d']) := by
  rw [Reader.nextKey, Reader.bind_of_ok (Reader.peekValue_behind (by decide) _ _)]
  rfl

lemma nextKey_behind (first : Bool) (key : String) (cs : List Char) (input : Input) :
    Reader.nextKey first (input.behind (comma first ++ (quote key ++ cs))) =
      .ok (some key, input.behind cs) := by
  have hquote : quote key ++ cs = '"' :: (key.toList.flatMap escapeChar ++ ['"'] ++ cs) := by
    rw [quote, List.cons_append, List.cons_append]
  have hkey : Reader.textRest (input.behind (key.toList.flatMap escapeChar ++ ['"'] ++ cs)) =
      .ok (key, input.behind cs) := by
    rw [Input.behind_append, textRest_behind]
  have hopen := Reader.peekValue_behind (c := '"') (by decide)
    (key.toList.flatMap escapeChar ++ ['"'] ++ cs) input
  have hbrace : ¬ byte '"' = byte '\x7d' := by decide
  rw [hquote]
  cases first with
  | true =>
    rw [comma, if_pos rfl, List.nil_append, Reader.nextKey, Reader.bind_of_ok hopen]
    simp only [if_neg hbrace, Bool.not_true, Bool.false_eq_true, if_false]
    rw [Reader.bind_of_ok hopen]
    simp only [if_true]
    rw [Reader.bind_of_ok (Reader.skip_behind (by decide) _ _), Reader.bind_of_ok hkey]
    rfl
  | false =>
    have hcomma : ¬ byte ',' = byte '\x7d' := by decide
    rw [comma, if_neg Bool.false_ne_true, List.singleton_append, Reader.nextKey,
      Reader.bind_of_ok (Reader.peekValue_behind (by decide) _ _)]
    simp only [if_neg hcomma, Bool.not_false, if_true]
    rw [Reader.bind_of_ok (Reader.skip_behind (by decide) _ _), Reader.bind_of_ok hopen]
    simp only [if_true]
    rw [Reader.bind_of_ok (Reader.skip_behind (by decide) _ _), Reader.bind_of_ok hkey]
    rfl

lemma colon_behind (cs : List Char) (input : Input) :
    Reader.colon (input.behind (':' :: cs)) = .ok ((), input.behind cs) := by
  rw [Reader.colon, Reader.bind_of_ok (Reader.peekValue_behind (by decide) _ _)]
  exact Reader.skip_behind (by decide) cs input

/-- The value of a field is entered under its label. -/
lemma enter_behind (found : f.fields.find? (fun field => field.label = key) = some field)
    (unset : field.isSet s = false) (takes : Takes (field.read s) written s')
    (hinput : input.Follows) :
    f.enter key s (input.behind (':' :: written)) = .ok (s', input) := by
  simp only [enter, found, unset, Bool.false_eq_true, if_false]
  rw [Reader.bind_of_ok (colon_behind written input), takes.takes input hinput]

/-- The members that are left of an object fill in their fields in their order. -/
lemma members_behind (h : Fills f s entries s') (hbound : entries.length ≤ bound) (first : Bool)
    (input : Input) :
    Reader.members f.enter bound first s
        ((input.behind ['\x7d']).behind (remaining first (entries.map member))) =
      .ok (s', input.behind ['\x7d']) := by
  induction h generalizing bound first with
  | nil =>
    cases bound with
    | zero => rfl
    | succ bound =>
      rw [Reader.members, List.map_nil, remaining, Input.behind_nil,
        Reader.bind_of_ok (nextKey_end first input)]
      rfl
  | @cons key field s s' s'' written entries found unset takes h ih =>
    obtain ⟨bound, rfl⟩ : ∃ k, bound = k + 1 := ⟨bound - 1, by simp at hbound; omega⟩
    have hvalue := enter_behind found unset takes
      (follows_remaining (entries.map member) (.inr rfl) input)
    rw [← Input.behind_append] at hvalue
    rw [Reader.members, List.map_cons, remaining, member, List.append_assoc,
      Reader.bind_of_ok (nextKey_behind first _ _ _)]
    simp only []
    rw [Reader.bind_of_ok hvalue, ih (Nat.le_of_succ_le_succ hbound)]

lemma finish_of_build (hset : ∀ field ∈ f.fields, field.optional = true ∨ field.isSet s = true)
    (hbuild : f.build s = some a) (input : Input) : f.finish s input = .ok (a, input) := by
  have hmissing : f.fields.find? (fun field => !field.optional && !field.isSet s) = none := by
    simpa [List.find?_eq_none, ← imp_iff_not_or, or_iff_not_imp_left] using hset
  rw [finish, hmissing]
  simp only [hbuild]
  rfl

/-- An object is taken for the structure that its members fill in. -/
theorem Fills.takes (h : Fills f f.start entries s)
    (hset : ∀ field ∈ f.fields, field.optional = true ∨ field.isSet s = true)
    (hbuild : f.build s = some a) : Takes f.reader (object entries) a where
  opens := ⟨'\x7b', _, rfl, by decide⟩
  takes input _ := by
    have hbound := length_le_behind (entries.map member) (input.behind ['\x7d'])
    rw [List.length_map] at hbound
    have hend : Reader.objectEnd (input.behind ['\x7d']) = .ok ((), input) := by
      rw [Reader.objectEnd, Reader.bind_of_ok (Reader.peekValue_behind (by decide) _ _)]
      exact Reader.skip_behind (by decide) [] input
    rw [object, intercalate_comma, List.cons_append, reader,
      Reader.bind_of_ok (Reader.valueStart_behind (by decide) _ _)]
    rw [if_neg (by decide), if_pos rfl, Reader.bind_of_ok (Reader.skip_behind (by decide) _ _),
      Input.behind_append, Reader.bind_of_ok (Reader.get_apply _),
      Reader.bind_of_ok (members_behind h hbound true input),
      Reader.bind_of_ok (finish_of_build hset hbuild _), Reader.bind_of_ok hend]
    rfl

end Form
end Json
end Reconcile
