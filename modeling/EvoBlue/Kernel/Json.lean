import EvoBlue.Kernel.Text

/-!
# JSON texts

Reading follows a recursive-descent decoder that accepts `NaN` and the
infinities, joins escaped surrogate pairs, keeps lone surrogates, refuses raw
control characters in strings, refuses an integer of more than 4300 digits with
an error of its own, and gives up at a nesting depth. Writing leaves non-ASCII
characters as they are.
-/

namespace EvoBlue.Kernel

inductive Json where
  | null
  | bool (value : Bool)
  | int (value : Int)
  /-- A float is kept as it is spelled. -/
  | float (lexeme : Text)
  | str (value : Text)
  | array (items : List Json)
  | object (members : List (Text × Json))

inductive JsonError where
  /-- `JSONDecodeError`. -/
  | decode
  /-- `ValueError` of an integer literal that is too long to convert. -/
  | integerTooLong
  /-- `RecursionError`. -/
  | recursion
  /-- The decoder below ran out of fuel; `loads_enough` excludes it. -/
  | outOfFuel
  deriving DecidableEq, Repr

namespace Json

/-! ## Strings -/

/-- What one letter after a backslash stands for. -/
def unescape (c : CodePoint) : Option CodePoint :=
  if c = cp '"' then some (cp '"')
  else if c = cp '\\' then some (cp '\\')
  else if c = cp '/' then some (cp '/')
  else if c = cp 'b' then some (codePoint 0x08)
  else if c = cp 'f' then some (codePoint 0x0c)
  else if c = cp 'n' then some (cp '\n')
  else if c = cp 'r' then some (cp '\r')
  else if c = cp 't' then some (cp '\t')
  else none

/-- Where the scanner of a string stands. -/
inductive ScanState where
  | plain
  | escape
  /-- Inside a `\u` escape, with this many digits to come. -/
  | hex (digits value : Nat)

/-- A unit of a string, and whether a `\u` escape spelled it. -/
abbrev StringUnit := CodePoint × Bool

def consUnit (unit : StringUnit) (found : List StringUnit × Text) : List StringUnit × Text :=
  (unit :: found.1, found.2)

/-- The units up to the closing quote, and what follows it. -/
def scanUnits : ScanState → Text → Option (List StringUnit × Text)
  | _, [] => none
  | .plain, c :: rest =>
    if c = cp '"' then some ([], rest)
    else if c.val < 0x20 then none
    else if c = cp '\\' then scanUnits .escape rest
    else (scanUnits .plain rest).map (consUnit (c, false))
  | .escape, c :: rest =>
    if c = cp 'u' then scanUnits (.hex 4 0) rest
    else
      match unescape c with
      | none => none
      | some meant => (scanUnits .plain rest).map (consUnit (meant, false))
  | .hex digits value, c :: rest =>
    match hexValue c with
    | none => none
    | some digit =>
      if digits ≤ 1 then
        (scanUnits .plain rest).map (consUnit (codePoint (value * 16 + digit), true))
      else scanUnits (.hex (digits - 1) (value * 16 + digit)) rest

def isHighSurrogate (c : CodePoint) : Bool := 0xd800 ≤ c.val && c.val < 0xdc00

def isLowSurrogate (c : CodePoint) : Bool := 0xdc00 ≤ c.val && c.val < 0xe000

/-- An escaped high surrogate before an escaped low one: the pair is one code point. -/
def joinSurrogates : List StringUnit → Text
  | [] => []
  | [unit] => [unit.1]
  | high :: low :: rest =>
    if high.2 && low.2 && isHighSurrogate high.1 && isLowSurrogate low.1 then
      codePoint (0x10000 + (high.1.val - 0xd800) * 0x400 + (low.1.val - 0xdc00)) ::
        joinSurrogates rest
    else high.1 :: joinSurrogates (low :: rest)

/-- A string after its opening quote. -/
def scanString (t : Text) : Except JsonError (Text × Text) :=
  match scanUnits .plain t with
  | none => .error .decode
  | some (units, rest) => .ok (joinSurrogates units, rest)

/-! ## Numbers -/

def maxStrDigits : Nat := 4300

/-- Value of decimal digits. -/
def digitsValue (digits : Text) : Nat := digits.foldl (fun value c => value * 10 + (c.val - 0x30)) 0

/-- A point and at least one digit. -/
def scanFraction : Text → Text
  | [] => []
  | point :: rest =>
    if point = cp '.' ∧ rest.takeWhile isDigit ≠ [] then point :: rest.takeWhile isDigit else []

/-- An exponent mark, perhaps a sign, and at least one digit. -/
def scanExponent : Text → Text
  | [] => []
  | mark :: rest =>
    if mark = cp 'e' ∨ mark = cp 'E' then
      let sign := rest.takeWhile (fun c => c = cp '+' ∨ c = cp '-') |>.take 1
      let digits := (rest.drop sign.length).takeWhile isDigit
      if digits = [] then [] else mark :: sign ++ digits
    else []

def scanNumber (t : Text) : Except JsonError (Json × Text) :=
  let sign := t.take (if t.head? = some (cp '-') then 1 else 0)
  let body := t.drop sign.length
  let digits := if body.head? = some (cp '0') then body.take 1 else body.takeWhile isDigit
  if digits = [] then .error .decode
  else
    let rest := body.drop digits.length
    let fraction := scanFraction rest
    let exponent := scanExponent (rest.drop fraction.length)
    let rest := (rest.drop fraction.length).drop exponent.length
    if fraction = [] ∧ exponent = [] then
      if digits.length > maxStrDigits then .error .integerTooLong
      else
        let value : Int := digitsValue digits
        .ok (.int (if sign = [] then value else -value), rest)
    else .ok (.float (sign ++ digits ++ fraction ++ exponent), rest)

/-! ## Values -/

def isJsonSpace (c : CodePoint) : Bool :=
  c = cp ' ' || c = cp '\t' || c = cp '\n' || c = cp '\r'

def skipSpace (t : Text) : Text := t.dropWhile isJsonSpace

/-- The names that stand for a value. -/
def constants : List (Text × Json) :=
  [(text "null", .null), (text "true", .bool true), (text "false", .bool false),
    (text "NaN", .float (text "NaN")), (text "Infinity", .float (text "Infinity")),
    (text "-Infinity", .float (text "-Infinity"))]

def scanConstant (t : Text) : Option (Json × Text) :=
  (constants.find? fun entry => entry.1.isPrefixOf t).map fun entry =>
    (entry.2, t.drop entry.1.length)

mutual

/-- One value at the start of the text, nested at most `depth` deep. -/
def scanValue : (fuel depth : Nat) → Text → Except JsonError (Json × Text)
  | 0, _, _ => .error .outOfFuel
  | _ + 1, _, [] => .error .decode
  | fuel + 1, depth, c :: rest =>
    if c = cp '"' then (scanString rest).map fun (value, rest) => (.str value, rest)
    else if c = cp '{' then
      if depth = 0 then .error .recursion
      else
        match skipSpace rest with
        | [] => .error .decode
        | d :: rest =>
          if d = cp '}' then .ok (.object [], rest)
          else (scanMembers fuel (depth - 1) (d :: rest)).map fun (members, rest) =>
            (.object members, rest)
    else if c = cp '[' then
      if depth = 0 then .error .recursion
      else
        match skipSpace rest with
        | [] => .error .decode
        | d :: rest =>
          if d = cp ']' then .ok (.array [], rest)
          else (scanItems fuel (depth - 1) (d :: rest)).map fun (items, rest) =>
            (.array items, rest)
    else
      match scanConstant (c :: rest) with
      | some found => .ok found
      | none => scanNumber (c :: rest)

/-- The items of an array up to its closing bracket. -/
def scanItems : (fuel depth : Nat) → Text → Except JsonError (List Json × Text)
  | 0, _, _ => .error .outOfFuel
  | fuel + 1, depth, t => do
    let (value, rest) ← scanValue fuel depth t
    match skipSpace rest with
    | [] => .error .decode
    | c :: rest =>
      if c = cp ']' then return ([value], rest)
      else if c = cp ',' then
        let (values, rest) ← scanItems fuel depth (skipSpace rest)
        return (value :: values, rest)
      else .error .decode

/-- The members of an object up to its closing brace. -/
def scanMembers : (fuel depth : Nat) → Text → Except JsonError (List (Text × Json) × Text)
  | 0, _, _ => .error .outOfFuel
  | _ + 1, _, [] => .error .decode
  | fuel + 1, depth, quote :: rest => do
    if quote ≠ cp '"' then .error .decode
    let (key, rest) ← scanString rest
    match skipSpace rest with
    | [] => .error .decode
    | colon :: rest =>
      if colon ≠ cp ':' then .error .decode
      let (value, rest) ← scanValue fuel depth (skipSpace rest)
      match skipSpace rest with
      | [] => .error .decode
      | c :: rest =>
        if c = cp '}' then return ([(key, value)], rest)
        else if c = cp ',' then
          let (members, rest) ← scanMembers fuel depth (skipSpace rest)
          return ((key, value) :: members, rest)
        else .error .decode

end

/-- `json.loads`, with room for containers nested `depth` deep. -/
def loads (depth : Nat) (t : Text) : Except JsonError Json := do
  if t.head? = some (codePoint 0xfeff) then .error .decode
  let (value, rest) ← scanValue (2 * t.length + 2) depth (skipSpace t)
  if skipSpace rest = [] then return value else .error .decode

/-- The string a value is, if it is one. -/
def asStr : Json → Option Text
  | .str value => some value
  | _ => none

/-- The value of a key; a later member replaces an earlier one. -/
def get (key : Text) : Json → Option Json
  | .object members => (members.reverse.find? fun member => member.1 = key).map (·.2)
  | _ => none

/-! ## Writing -/

def hexDigit (n : Nat) : CodePoint := codePoint (if n < 10 then 0x30 + n else 0x61 + (n - 10))

def escapeOne (c : CodePoint) : Text :=
  if c = cp '"' then text "\\\""
  else if c = cp '\\' then text "\\\\"
  else if c = cp '\n' then text "\\n"
  else if c = cp '\r' then text "\\r"
  else if c = cp '\t' then text "\\t"
  else if c.val = 0x08 then text "\\b"
  else if c.val = 0x0c then text "\\f"
  else if c.val < 0x20 then text "\\u00" ++ [hexDigit (c.val / 16), hexDigit (c.val % 16)]
  else [c]

/-- `json.dumps` of a string, with `ensure_ascii=False`. -/
def dumpsStr (t : Text) : Text := cp '"' :: (t.flatMap escapeOne ++ [cp '"'])

/-- `json.dumps` of a list of strings, with `ensure_ascii=False`. -/
def dumpsStrings (items : List Text) : Text :=
  cp '[' :: ((text ", ").intercalate (items.map dumpsStr) ++ [cp ']'])

/-! ## The fuel is enough -/

/-- A scan that leaves less than `n` code points, or fails for a reason of the text. -/
def Spends {α : Type} (n : Nat) : Except JsonError (α × Text) → Prop
  | .error error => error ≠ .outOfFuel
  | .ok (_, rest) => rest.length < n

theorem Spends.map {α β : Type} {n : Nat} {scan : Except JsonError (α × Text)} (spends : Spends n scan)
    (wrap : α → β) : Spends n (scan.map fun (value, rest) => (wrap value, rest)) := by
  cases scan <;> exact spends

theorem Spends.mono {α : Type} {n m : Nat} {scan : Except JsonError (α × Text)}
    (spends : Spends n scan) (less : n ≤ m) : Spends m scan := by
  cases scan with
  | error error => exact spends
  | ok found => exact Nat.lt_of_lt_of_le spends less

/-- What is left of a scan is scanned on. -/
theorem Spends.bind {α β : Type} {n m : Nat} {scan : Except JsonError (α × Text)}
    {next : α × Text → Except JsonError (β × Text)} (spends : Spends n scan)
    (later : ∀ value rest, rest.length < n → Spends m (next (value, rest))) :
    Spends m (scan >>= next) := by
  cases scan with
  | error error => exact spends
  | ok found => exact later found.1 found.2 spends

theorem skipSpace_length (t : Text) : (skipSpace t).length ≤ t.length :=
  (List.dropWhile_sublist _).length_le

theorem scanUnits_length (state : ScanState) (t : Text) {units : List StringUnit} {rest : Text}
    (scanned : scanUnits state t = some (units, rest)) : rest.length < t.length := by
  induction t generalizing state units with
  | nil => cases state <;> cases scanned
  | cons c t ih =>
    have later : ∀ {state unit found}, (scanUnits state t).map (consUnit unit) = some (found, rest) →
        rest.length < (c :: t).length := by
      intro state unit found mapped
      obtain ⟨⟨units, rest⟩, inner, same⟩ := Option.map_eq_some_iff.1 mapped
      cases same
      exact Nat.lt_succ_of_lt (ih state inner)
    have moved : ∀ {state}, scanUnits state t = some (units, rest) →
        rest.length < (c :: t).length := fun inner => Nat.lt_succ_of_lt (ih _ inner)
    cases state with
    | plain =>
      rw [scanUnits] at scanned
      split_ifs at scanned
      · cases scanned
        simp
      · exact moved scanned
      · exact later scanned
    | escape =>
      rw [scanUnits] at scanned
      split at scanned
      · exact moved scanned
      · split at scanned
        · cases scanned
        · exact later scanned
    | hex digits value =>
      rw [scanUnits] at scanned
      split at scanned
      · cases scanned
      · split at scanned
        · exact later scanned
        · exact moved scanned

theorem scanString_spends (t : Text) : Spends t.length (scanString t) := by
  unfold scanString
  split
  next => simp [Spends]
  next units rest scanned => exact scanUnits_length .plain t scanned

theorem scanNumber_spends (t : Text) : Spends t.length (scanNumber t) := by
  unfold scanNumber
  extract_lets sign body digits rest fraction exponent last value
  have taken : digits.length ≤ body.length := by
    unfold digits
    split
    · exact List.length_take_le' 1 body
    · exact (List.takeWhile_sublist _).length_le
  have bodyLength : body.length ≤ t.length := by simp [body]
  have left : digits ≠ [] → last.length < t.length := by
    intro some
    have positive := List.length_pos_iff.2 some
    simp only [last, rest, List.length_drop]
    omega
  split
  next => simp [Spends]
  next some =>
    split
    next =>
      split
      · simp [Spends]
      · exact left some
    next => exact left some

theorem scanConstant_length {t : Text} {found : Json × Text} (scanned : scanConstant t = some found) :
    found.2.length < t.length := by
  obtain ⟨entry, among, rfl⟩ := Option.map_eq_some_iff.1 scanned
  have spelled : entry.1.isPrefixOf t = true := by
    simpa using List.find?_some among
  have positive : ∀ entry ∈ constants, 0 < entry.1.length := by
    simp [constants, text]
  have prefixLength := (List.isPrefixOf_iff_prefix.1 spelled).length_le
  have shorter := positive entry (List.mem_of_find?_eq_some among)
  simp only [List.length_drop]
  omega

theorem scan_spends (fuel : Nat) :
    (∀ depth t, 2 * t.length + 1 ≤ fuel → Spends t.length (scanValue fuel depth t)) ∧
    (∀ depth t, 2 * t.length + 2 ≤ fuel → Spends t.length (scanItems fuel depth t)) ∧
    (∀ depth t, 2 * t.length + 2 ≤ fuel → Spends t.length (scanMembers fuel depth t)) := by
  induction fuel with
  | zero => exact ⟨fun _ _ low => by omega, fun _ _ low => by omega, fun _ _ low => by omega⟩
  | succ fuel ih =>
    obtain ⟨values, items, members⟩ := ih
    refine ⟨fun depth t enough => ?_, fun depth t enough => ?_, fun depth t enough => ?_⟩
    · cases t with
      | nil => simp [scanValue, Spends]
      | cons c t =>
        rw [List.length_cons] at enough
        rw [scanValue]
        split
        next => exact ((scanString_spends t).map _).mono (by simp)
        split
        next =>
          split
          next => simp [Spends]
          have shorter := skipSpace_length t
          split
          next => simp [Spends]
          next d rest left =>
            rw [left, List.length_cons] at shorter
            split
            next =>
              simp only [Spends, List.length_cons]
              omega
            next =>
              refine Spends.map (Spends.mono (members _ _ ?_) ?_) _ <;>
                simp only [List.length_cons] <;> omega
        split
        next =>
          split
          next => simp [Spends]
          have shorter := skipSpace_length t
          split
          next => simp [Spends]
          next d rest left =>
            rw [left, List.length_cons] at shorter
            split
            next =>
              simp only [Spends, List.length_cons]
              omega
            next =>
              refine Spends.map (Spends.mono (items _ _ ?_) ?_) _ <;>
                simp only [List.length_cons] <;> omega
        split
        next found scanned => exact scanConstant_length scanned
        next => exact scanNumber_spends _
    · rw [scanItems]
      refine (values depth t (by omega)).bind fun value rest short => ?_
      have shorter := skipSpace_length rest
      simp only
      split
      next => simp [Spends]
      next c after left =>
        rw [left, List.length_cons] at shorter
        split
        next =>
          simp only [Spends, pure, Except.pure]
          omega
        split
        next =>
          have shorter' := skipSpace_length after
          refine (items depth (skipSpace after) (by omega)).bind fun found last short' => ?_
          simp only [Spends, pure, Except.pure]
          omega
        next => simp [Spends]
    · cases t with
      | nil => simp [scanMembers, Spends]
      | cons quote t =>
        rw [List.length_cons] at enough
        rw [scanMembers]
        split
        next => simp [Spends, bind, Except.bind]
        refine Spends.bind (scanString_spends t) fun key rest short => ?_
        have shorter := skipSpace_length rest
        simp only
        split
        next => simp [Spends]
        next colon after left =>
          rw [left, List.length_cons] at shorter
          split
          next => simp [Spends, bind, Except.bind]
          have shorter' := skipSpace_length after
          refine (values depth (skipSpace after) (by omega)).bind fun value beyond short' => ?_
          have shorter'' := skipSpace_length beyond
          simp only
          split
          next => simp [Spends]
          next c last left' =>
            rw [left', List.length_cons] at shorter''
            split
            next =>
              simp only [Spends, pure, Except.pure, List.length_cons]
              omega
            split
            next =>
              have shortest := skipSpace_length last
              refine (members depth (skipSpace last) (by omega)).bind fun found left short => ?_
              simp only [Spends, pure, Except.pure, List.length_cons]
              omega
            next => simp [Spends]

/-- Reading a text never ends for want of fuel. -/
theorem loads_enough (depth : Nat) (t : Text) : loads depth t ≠ .error .outOfFuel := by
  have shorter := skipSpace_length t
  have spends := (scan_spends (2 * t.length + 2)).1 depth (skipSpace t) (by omega)
  unfold loads
  split
  next => simp [bind, Except.bind]
  cases scanned : scanValue (2 * t.length + 2) depth (skipSpace t) with
  | error error =>
    rw [scanned] at spends
    simp only [bind, Except.bind]
    intro same
    exact spends (Except.error.inj same)
  | ok found =>
    simp only [bind, Except.bind, pure, Except.pure]
    split <;> simp

/-! ## A written string is read back -/

theorem hexValue_hexDigit : ∀ n < 16, hexValue (hexDigit n) = some n := by decide +kernel

theorem scanUnits_hex {n : Nat} (small : n < 16) (digits value : Nat) (rest : Text) :
    scanUnits (.hex digits value) (hexDigit n :: rest) =
      if digits ≤ 1 then
        (scanUnits .plain rest).map (consUnit (codePoint (value * 16 + n), true))
      else scanUnits (.hex (digits - 1) (value * 16 + n)) rest := by
  rw [scanUnits, hexValue_hexDigit n small]

/-- Scanning undoes the escape of one code point. Only control characters are
spelled with a `u` escape. -/
theorem scanUnits_escapeOne (c : CodePoint) (rest : Text) :
    ∃ spelled, (spelled = true → c.val < 0x20) ∧
      scanUnits .plain (escapeOne c ++ rest) =
        (scanUnits .plain rest).map (consUnit (c, spelled)) := by
  unfold escapeOne
  split_ifs with quote backslash newline carriage tab backspace formFeed control
  · subst quote
    exact ⟨false, by simp, rfl⟩
  · subst backslash
    exact ⟨false, by simp, rfl⟩
  · subst newline
    exact ⟨false, by simp, rfl⟩
  · subst carriage
    exact ⟨false, by simp, rfl⟩
  · subst tab
    exact ⟨false, by simp, rfl⟩
  · rw [← codePoint_eq backspace.symm]
    exact ⟨false, by simp, rfl⟩
  · rw [← codePoint_eq formFeed.symm]
    exact ⟨false, by simp, rfl⟩
  · refine ⟨true, fun _ => control, ?_⟩
    have zero : text "\\u00" = [cp '\\', cp 'u', hexDigit 0, hexDigit 0] := by decide +kernel
    rw [zero]
    simp only [List.cons_append, List.nil_append]
    rw [scanUnits, if_neg (by decide), if_neg (by decide), if_pos rfl, scanUnits, if_pos rfl,
      scanUnits_hex (by omega), if_neg (by omega), scanUnits_hex (by omega), if_neg (by omega),
      scanUnits_hex (by omega), if_neg (by omega), scanUnits_hex (by omega), if_pos (by omega),
      @codePoint_eq _ c (by omega)]
  · refine ⟨false, by simp, ?_⟩
    rw [List.singleton_append, scanUnits, if_neg quote, if_neg control, if_neg backslash]

theorem scanUnits_escaped (t rest : Text) :
    ∃ units : List StringUnit, units.map (·.1) = t ∧
      (∀ unit ∈ units, unit.2 = true → unit.1.val < 0x20) ∧
      scanUnits .plain (t.flatMap escapeOne ++ cp '"' :: rest) = some (units, rest) := by
  induction t with
  | nil => exact ⟨[], rfl, by simp, by simp [scanUnits]⟩
  | cons c t ih =>
    obtain ⟨units, same, controls, scanned⟩ := ih
    obtain ⟨spelled, control, first⟩ :=
      scanUnits_escapeOne c (t.flatMap escapeOne ++ cp '"' :: rest)
    refine ⟨(c, spelled) :: units, by simp [same], ?_, ?_⟩
    · intro unit mem
      rcases List.mem_cons.1 mem with rfl | mem
      · exact control
      · exact controls unit mem
    · rw [List.flatMap_cons, List.append_assoc, first, scanned]
      rfl

/-- Without escaped surrogates nothing is joined. -/
theorem joinSurrogates_plain {units : List StringUnit}
    (plain : ∀ unit ∈ units, unit.2 = true → unit.1.val < 0x20) :
    joinSurrogates units = units.map (·.1) := by
  induction units with
  | nil => rfl
  | cons high units ih =>
    have rest := ih fun unit mem => plain unit (by simp [mem])
    cases units with
    | nil => rfl
    | cons low units =>
      have first := plain high (by simp)
      rw [joinSurrogates, if_neg, rest]
      · rfl
      · simp only [isHighSurrogate, Bool.and_eq_true, decide_eq_true_eq]
        intro joined
        have small := first joined.1.1.1
        omega

theorem scanString_escaped (t rest : Text) :
    scanString (t.flatMap escapeOne ++ cp '"' :: rest) = .ok (t, rest) := by
  obtain ⟨units, same, controls, scanned⟩ := scanUnits_escaped t rest
  unfold scanString
  rw [scanned]
  simp only [joinSurrogates_plain controls, same]

theorem scanValue_dumpsStr (fuel depth : Nat) (t rest : Text) :
    scanValue (fuel + 1) depth (dumpsStr t ++ rest) = .ok (.str t, rest) := by
  unfold dumpsStr
  rw [List.cons_append, scanValue, if_pos rfl, List.append_assoc, List.singleton_append,
    scanString_escaped]
  rfl

theorem skipSpace_cons {c : CodePoint} (visible : isJsonSpace c = false) (t : Text) :
    skipSpace (c :: t) = c :: t := by
  simp [skipSpace, visible]

theorem loads_dumpsStr (depth : Nat) (t : Text) : loads depth (dumpsStr t) = .ok (.str t) := by
  have skipped : skipSpace (dumpsStr t) = dumpsStr t := skipSpace_cons (by decide) _
  have mark : (dumpsStr t).head? ≠ some (codePoint 0xfeff) := by
    simp only [dumpsStr, List.head?_cons]
    decide
  have scanned := scanValue_dumpsStr (2 * (dumpsStr t).length + 1) depth t []
  rw [List.append_nil] at scanned
  unfold loads
  rw [if_neg mark, skipped]
  simp only [scanned, bind, Except.bind, pure, Except.pure]
  rfl

theorem hexDigit_visible : ∀ n < 16, 0x20 ≤ (hexDigit n).val := by decide +kernel

theorem escapeOne_visible (c : CodePoint) : visible (escapeOne c) = true := by
  unfold escapeOne
  split_ifs with quote backslash newline carriage tab backspace formFeed control
  on_goal 8 =>
    have upper := hexDigit_visible (c.val / 16) (by omega)
    have lower := hexDigit_visible (c.val % 16) (by omega)
    have lead : visible (text "\\u00") = true := by decide
    simpa [visible, upper, lower] using lead
  on_goal 8 =>
    simp [visible]
    omega
  all_goals decide

/-- A written string has no control characters, so it stays on its line. -/
theorem dumpsStr_visible (t : Text) : visible (dumpsStr t) = true := by
  have quoted : 0x20 ≤ (cp '"').val := by decide
  have escaped : visible (t.flatMap escapeOne) = true := by
    rw [visible, List.all_flatMap, List.all_eq_true]
    exact fun c _ => escapeOne_visible c
  unfold visible at escaped
  simp only [dumpsStr, visible, List.all_cons, List.all_append, List.all_nil, escaped, quoted,
    decide_true, Bool.and_true]

theorem dumpsStrings_visible (items : List Text) : visible (dumpsStrings items) = true := by
  have between : visible (text ", ") = true := by decide
  have inner : visible ((text ", ").intercalate (items.map dumpsStr)) = true := by
    refine visible_intercalate between fun part mem => ?_
    obtain ⟨item, _, rfl⟩ := List.mem_map.1 mem
    exact dumpsStr_visible item
  have closing : visible [cp ']'] = true := by decide
  have opening : visible [cp '['] = true := by decide
  unfold dumpsStrings
  rw [← List.singleton_append, visible_append, visible_append, inner, closing, opening]
  rfl

/-! ## A list of strings is read back -/

theorem dumpsStr_cons (t : Text) : ∃ rest, dumpsStr t = cp '"' :: rest := ⟨_, rfl⟩

theorem scanItems_dumpsStrings (item : Text) (items : List Text) (depth fuel : Nat)
    (enough : items.length + 2 ≤ fuel) :
    scanItems fuel depth ((text ", ").intercalate ((item :: items).map dumpsStr) ++ [cp ']']) =
      .ok ((item :: items).map .str, []) := by
  induction items generalizing item fuel with
  | nil =>
    obtain ⟨fuel, rfl⟩ : ∃ more, fuel = more + 2 := ⟨fuel - 2, by simp at enough; omega⟩
    have read := scanValue_dumpsStr fuel depth item [cp ']']
    have closing : skipSpace [cp ']'] = [cp ']'] := rfl
    rw [List.map_cons, List.map_nil, List.intercalate_singleton, scanItems, read]
    simp only [bind, Except.bind, closing, if_true]
    rfl
  | cons next items ih =>
    obtain ⟨fuel, rfl⟩ : ∃ more, fuel = more + 2 := ⟨fuel - 2, by simp at enough; omega⟩
    have separator : text ", " = [cp ',', cp ' '] := rfl
    have later := ih next (fuel + 1) (by simp at enough; omega)
    obtain ⟨rest, quoted⟩ : ∃ rest,
        (text ", ").intercalate ((next :: items).map dumpsStr) ++ [cp ']'] = cp '"' :: rest := by
      cases items with
      | nil => exact ⟨_, rfl⟩
      | cons _ _ => exact ⟨_, rfl⟩
    have whole : (text ", ").intercalate ((item :: next :: items).map dumpsStr) ++ [cp ']'] =
        dumpsStr item ++ (cp ',' :: cp ' ' ::
          ((text ", ").intercalate ((next :: items).map dumpsStr) ++ [cp ']'])) := by
      rw [List.map_cons, List.map_cons, List.intercalate_cons_cons, separator]
      simp
    have read := scanValue_dumpsStr fuel depth item (cp ',' :: cp ' ' ::
      ((text ", ").intercalate ((next :: items).map dumpsStr) ++ [cp ']']))
    have comma : skipSpace (cp ',' :: cp ' ' :: cp '"' :: rest) = cp ',' :: cp ' ' :: cp '"' :: rest := rfl
    have blank : skipSpace (cp ' ' :: cp '"' :: rest) = cp '"' :: rest := rfl
    rw [whole, scanItems, read]
    rw [quoted] at later ⊢
    have apart : cp ',' ≠ cp ']' := by decide
    simp only [bind, Except.bind, comma, if_neg apart, if_true, blank, later]
    rfl

theorem length_dumpsStrings (items : List Text) : items.length ≤ (dumpsStrings items).length := by
  have quoted : ∀ part ∈ items.map dumpsStr, 1 ≤ part.length := by
    intro part mem
    obtain ⟨item, _, rfl⟩ := List.mem_map.1 mem
    simp [dumpsStr]
  have parts : ∀ parts : List Text, (∀ part ∈ parts, 1 ≤ part.length) →
      parts.length ≤ ((text ", ").intercalate parts).length := by
    intro parts all
    induction parts with
    | nil => simp
    | cons part parts ih =>
      have first := all part List.mem_cons_self
      have later := ih fun part mem => all part (List.mem_cons_of_mem _ mem)
      cases parts with
      | nil => simpa using first
      | cons next parts =>
        rw [List.intercalate_cons_cons, List.length_append, List.length_append, List.length_cons]
        omega
  have inner := parts _ quoted
  rw [List.length_map] at inner
  unfold dumpsStrings
  rw [List.length_cons, List.length_append]
  omega

theorem loads_dumpsStrings {depth : Nat} (deep : 0 < depth) (items : List Text) :
    loads depth (dumpsStrings items) = .ok (.array (items.map .str)) := by
  have mark : (dumpsStrings items).head? ≠ some (codePoint 0xfeff) := by
    simp only [dumpsStrings, List.head?_cons]
    decide
  have skipped : skipSpace (dumpsStrings items) = dumpsStrings items := skipSpace_cons (by decide) _
  have long := length_dumpsStrings items
  have scanned : scanValue (2 * (dumpsStrings items).length + 2) depth (dumpsStrings items) =
      .ok (.array (items.map .str), []) := by
    generalize fuel : 2 * (dumpsStrings items).length + 1 = more
    rw [show 2 * (dumpsStrings items).length + 2 = more + 1 by omega]
    unfold dumpsStrings at fuel long ⊢
    rw [scanValue, if_neg (by decide), if_neg (by decide), if_pos rfl, if_neg (by omega)]
    cases items with
    | nil => rfl
    | cons item items =>
      obtain ⟨rest, quoted⟩ : ∃ rest, (text ", ").intercalate ((item :: items).map dumpsStr) ++
          [cp ']'] = cp '"' :: rest := by
        cases items with
        | nil => exact ⟨_, rfl⟩
        | cons _ _ => exact ⟨_, rfl⟩
      have read := scanItems_dumpsStrings item items (depth - 1) more (by
        simp only [List.length_cons] at long fuel
        omega)
      rw [quoted] at read ⊢
      have start : skipSpace (cp '"' :: rest) = cp '"' :: rest := rfl
      rw [start]
      dsimp only
      rw [if_neg (by decide), read]
      rfl
  unfold loads
  rw [if_neg mark, skipped]
  simp only [scanned, bind, Except.bind, pure, Except.pure]
  rfl

end Json

end EvoBlue.Kernel
