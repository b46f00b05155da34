import SwarmFi.Python.Decoding
import SwarmFi.Python.JsonRoundTrip

/-!
# The storage sidecar

`sidecar.mjs`, one run of a Node process: it reads its arguments and its
standard input, asks the SDK, and exits with a code after it has printed.  The
SDK is a parameter; what it prints on the standard output itself is kept
apart, as the sidecar prints there as well.  Its lines on the standard error
and an option without a value are left out.
-/

namespace SwarmFi.ZgSidecar

open Python

/-! ## The SDK -/

/-- `err.message`, which may be undefined, and `String(err)`. -/
structure SdkError where
  message : Option String
  text : String

structure SdkResult where
  rootHash : Option String
  rootHashes : List String
  txHash : Option String
  txHashes : List String

/-- What the race of an upload against its deadline comes to.  After the
deadline the root is computed from the data, where `info()` may throw. -/
inductive UploadRace where
  | settled (result : Option SdkResult) (err : Option SdkError)
  | threw (err : SdkError)
  | timedOut (info : Option (Option String))

inductive DownloadAnswer where
  | saved (bytes : Bytes)
  | failed (err : SdkError)
  | threw (err : SdkError)

/-- An answer and what was printed meanwhile. -/
structure Sdk where
  State : Type
  upload : State → (privKey evmRpc indexerRpc : String) → Bytes →
    (UploadRace × Bytes) × State
  download : State → (indexerRpc rootHash : String) →
    (DownloadAnswer × Bytes) × State

/-! ## A run of the process -/

structure Completed where
  returncode : Nat
  stdout : Bytes
  stderr : Bytes

def fatal (stdout : Bytes) (stderr msg : String) : Completed where
  returncode := 1
  stdout := stdout
  stderr := encode (stderr ++ "error: " ++ msg ++ "\n")

/-- `fatal(e.message)` of what was thrown -/
def SdkError.thrown (err : SdkError) : String :=
  err.message.getD "undefined"

/-- The options of a command with their values. -/
def parseArgs : List String → List (String × String)
  | [] => []
  | [_] => []
  | arg :: value :: rest =>
      match afterStart "--".toList arg.toList with
      | some name => (String.ofList name, value) :: parseArgs rest
      | none => parseArgs (value :: rest)

/-- The last value of an option; an empty one is falsy. -/
def option? (args : List (String × String)) (name : String) :
    Option String :=
  match (args.filter fun arg => arg.1 = name).getLast? with
  | some (_, value) => if value = "" then none else some value
  | none => none

def evmRpc : String := "https://evmrpc-testnet.0g.ai"

def indexerRpc : String :=
  "https://indexer-storage-testnet-turbo.0g.ai"

def marked (text : String) : String :=
  if startsWith text "0x" then text else "0x" ++ text

/-! ## Uploads -/

/-- A character in `JSON.stringify` of a string: like Python's, but what is
not ASCII stays as it is. -/
def jsEscape (character : Char) : List Char :=
  if character.toNat < 0x7f then JsonWriter.escape character
  else [character]

def quote (text : String) : List Char :=
  '"' :: (text.toList.flatMap jsEscape ++ ['"'])

def quoteOrNull : Option String → List Char
  | some text => quote text
  | none => "null".toList

/-- `JSON.stringify({ rootHash, txHash })` -/
def stringify (rootHash : String) (txHash : Option String) : String :=
  String.ofList ('{' :: (quote "rootHash" ++ ':' :: (quote rootHash ++
    ',' :: (quote "txHash" ++ ':' :: (quoteOrNull txHash ++ ['}'])))))

/-- `result?.rootHash ?? result?.rootHashes?.[0]` -/
def SdkResult.root? (result : SdkResult) : Option String :=
  result.rootHash.or result.rootHashes.head?

def SdkResult.tx? (result : SdkResult) : Option String :=
  result.txHash.or result.txHashes.head?

/-- `err.message?.toLowerCase().includes('already')` -/
def SdkError.already (err : SdkError) : Bool :=
  match err.message with
  | some message => isIn "already" (lower message)
  | none => false

/-- The hashes that an upload is resolved to, or the message it dies with. -/
def UploadRace.resolved : UploadRace →
    Except String (Option String × Option String)
  | .settled result err =>
      match err with
      | some err =>
          if err.already then
            .ok (result >>= SdkResult.root?, result >>= SdkResult.tx?)
          else
            .error err.thrown
      | none => .ok (result >>= SdkResult.root?, result >>= SdkResult.tx?)
  | .threw err => .error err.thrown
  | .timedOut (some root) => .ok (root, none)
  | .timedOut none =>
      .error "upload timed out and could not compute local root hash"

def UploadRace.stderr : UploadRace → String
  | .timedOut _ =>
      "[zg-sidecar] upload timed out waiting for node sync — " ++
        "returning tx root\n"
  | _ => ""

/-- How an upload ends. -/
def UploadRace.completed (race : UploadRace) (printed : Bytes) :
    Completed :=
  match race.resolved with
  | .error msg => fatal printed race.stderr msg
  | .ok (root, txHash) =>
      if root.getD "" = "" then
        fatal printed race.stderr "upload returned no rootHash"
      else
        { returncode := 0
          stdout :=
            printed ++ encode (stringify (root.getD "") txHash ++ "\n")
          stderr := encode (race.stderr ++ "[zg-sidecar] root=" ++
            root.getD "" ++ "\n") }

section Commands

variable (sdk : Sdk) (args : List (String × String))

def cmdUpload (stdin : Bytes) (state : sdk.State) :
    Completed × sdk.State :=
  match option? args "key" with
  | none => (fatal [] "" "--key required", state)
  | some privKeyRaw =>
      if stdin = [] then
        (fatal [] "" "no stdin data", state)
      else
        let uploaded := sdk.upload state (marked privKeyRaw)
          ((option? args "evm").getD evmRpc)
          ((option? args "indexer").getD indexerRpc) stdin
        (uploaded.1.1.completed uploaded.1.2, uploaded.2)

/-! ## Downloads -/

/-- `dlErr.message ?? String(dlErr)` -/
def SdkError.msg (err : SdkError) : String := err.message.getD err.text

/-- Is the blob perhaps not there yet? -/
def retries (msg : String) : Bool :=
  isIn "no locations" (lower msg) || isIn "0 locations" (lower msg) ||
    isIn "not found" (lower msg)

def maxAttempts : Nat := 8

/-- Attempt number `attempt`, with `left` more after it. -/
def downloadFrom (indexerRpc rootHash : String) :
    Nat → Nat → Bytes → String → sdk.State → Completed × sdk.State
  | left, attempt, printed, stderr, state =>
      let tried := stderr ++ "[zg-sidecar] download attempt " ++
        toString attempt ++ "/" ++ toString maxAttempts ++ "\n"
      let asked := sdk.download state indexerRpc rootHash
      match asked.1.1 with
      | .saved bytes =>
          ({ returncode := 0
             stdout := printed ++ asked.1.2 ++ bytes
             stderr := encode tried }, asked.2)
      | .threw err => (fatal (printed ++ asked.1.2) tried err.thrown, asked.2)
      | .failed err =>
          if retries err.msg then
            match left with
            | 0 =>
                (fatal (printed ++ asked.1.2) tried
                  ("download failed after " ++ toString maxAttempts ++
                    " attempts"), asked.2)
            | left + 1 =>
                downloadFrom indexerRpc rootHash left (attempt + 1)
                  (printed ++ asked.1.2)
                  (tried ++ "[zg-sidecar] retrying in " ++
                    toString (5 * attempt) ++ "s: " ++ err.msg ++ "\n")
                  asked.2
          else
            (fatal (printed ++ asked.1.2) tried
              ("download failed: " ++ err.msg), asked.2)

def cmdDownload (state : sdk.State) : Completed × sdk.State :=
  match option? args "root" with
  | none => (fatal [] "" "--root required", state)
  | some root =>
      downloadFrom sdk ((option? args "indexer").getD indexerRpc)
        (marked root) (maxAttempts - 1) 1 [] "" state

end Commands

/-- The process on its arguments, of which the first is the command. -/
def main (sdk : Sdk) (argv : List String) (stdin : Bytes)
    (state : sdk.State) : Completed × sdk.State :=
  match argv with
  | "upload" :: rest => cmdUpload sdk (parseArgs rest) stdin state
  | "download" :: rest => cmdDownload sdk (parseArgs rest) state
  | other =>
      (fatal [] "" ("unknown command: " ++ other.headD "(none)" ++
        ". Use upload or download"), state)

/-! ## The line it prints -/

open JsonReader in
theorem readString_jsEscape (fuel : Nat) (reversed : List Char)
    (character : Char) (rest : List Char) :
    readString (fuel + 1) reversed (jsEscape character ++ rest) =
      readString fuel (character :: reversed) rest := by
  by_cases ascii : character.toNat < 0x7f
  · rw [jsEscape, if_pos ascii]
    exact readString_escape fuel reversed character rest
  · have notQuote : character ≠ '"' := by
      intro same
      subst same
      exact ascii (by decide)
    have notSlash : character ≠ '\\' := by
      intro same
      subst same
      exact ascii (by decide)
    simp only [jsEscape, if_neg ascii, List.cons_append, List.nil_append,
      readString]
    rw [if_neg notQuote, if_neg notSlash, if_neg (by omega)]

open JsonReader in
theorem readString_quoted (text rest : List Char) (fuel : Nat)
    (reversed : List Char) (enough : text.length < fuel) :
    readString fuel reversed (text.flatMap jsEscape ++ '"' :: rest) =
      some (String.ofList (reversed.reverse ++ text), rest) := by
  induction text generalizing fuel reversed with
  | nil =>
      rcases Nat.exists_eq_add_one.mpr enough with ⟨fuel, isFuel⟩
      subst isFuel
      simp [readString]
  | cons character text inductionHypothesis =>
      rw [List.length_cons] at enough
      rcases Nat.exists_eq_add_one.mpr (Nat.zero_lt_of_lt enough) with
        ⟨fuel, isFuel⟩
      subst isFuel
      rw [List.flatMap_cons, List.append_assoc, readString_jsEscape,
        inductionHypothesis _ _ (Nat.lt_of_succ_lt_succ enough),
        List.reverse_cons, List.append_assoc]
      rfl

theorem length_le_quoted (text : List Char) :
    text.length ≤ (text.flatMap jsEscape).length := by
  induction text with
  | nil => exact Nat.le_refl 0
  | cons character text inductionHypothesis =>
      have one : 0 < (jsEscape character).length := by
        rw [jsEscape]
        split
        · exact List.length_pos_of_ne_nil (escape_ne_nil _)
        · exact Nat.one_pos
      rw [List.flatMap_cons, List.length_append, List.length_cons]
      omega

/-- A quoted text after its opening quote. -/
theorem readString_quote (text : String) (rest : List Char) :
    JsonReader.readString
        ((text.toList.flatMap jsEscape ++ '"' :: rest).length + 1) []
        (text.toList.flatMap jsEscape ++ '"' :: rest) =
      some (text, rest) := by
  have bound := length_le_quoted text.toList
  have enough : text.toList.length <
      (text.toList.flatMap jsEscape ++ '"' :: rest).length + 1 := by
    rw [List.length_append]
    omega
  rw [readString_quoted _ _ _ _ enough]
  exact congrArg (fun text => some (text, rest)) String.ofList_toList

theorem quote_append (text : String) (rest : List Char) :
    quote text ++ rest =
      '"' :: (text.toList.flatMap jsEscape ++ '"' :: rest) := by
  rw [quote, List.cons_append, List.append_assoc]
  rfl

def jsonOf (text : Option String) : Json :=
  (text.map Json.str).getD .null

theorem readValue_quoteOrNull (fuel : Nat) (text : Option String)
    (rest : List Char) :
    JsonReader.readValue (fuel + 1) (quoteOrNull text ++ rest) =
      some (jsonOf text, rest) := by
  cases text with
  | none => rfl
  | some text =>
      rw [quoteOrNull, quote_append, JsonReader.readValue, if_pos rfl,
        readString_quote]
      rfl

theorem skipBlank_quoteOrNull (text : Option String) (rest : List Char) :
    JsonReader.skipBlank (quoteOrNull text ++ rest) =
      quoteOrNull text ++ rest := by
  cases text <;> rfl

section Fields

open JsonReader

theorem skipBlank_of_notBlank {first : Char} (rest : List Char)
    (notBlank : isBlank first = false) :
    skipBlank (first :: rest) = first :: rest := by
  rw [skipBlank, List.dropWhile_cons, notBlank]
  rfl

variable (fuel : Nat) (fields : Dict) (key : String) (value : Option String)

/-- A field that another one follows. -/
theorem readFields_comma (rest : List Char) :
    readFields (fuel + 2) fields
        (quote key ++ ':' :: (quoteOrNull value ++ ',' :: '"' :: rest)) =
      readFields (fuel + 1) (fields.set key (jsonOf value))
        ('"' :: rest) := by
  have colon : ∀ more, skipBlank (':' :: more) = ':' :: more :=
    fun more => skipBlank_of_notBlank more (by decide)
  have comma : ∀ more, skipBlank (',' :: more) = ',' :: more :=
    fun more => skipBlank_of_notBlank more (by decide)
  have mark : ∀ more, skipBlank ('"' :: more) = '"' :: more :=
    fun more => skipBlank_of_notBlank more (by decide)
  rw [quote_append, readFields, readString_quote]
  simp only [colon, skipBlank_quoteOrNull, readValue_quoteOrNull, comma,
    mark]

/-- The last field. -/
theorem readFields_brace :
    readFields (fuel + 2) fields
        (quote key ++ ':' :: (quoteOrNull value ++ ['}'])) =
      some (.obj (fields.set key (jsonOf value)), []) := by
  have colon : ∀ more, skipBlank (':' :: more) = ':' :: more :=
    fun more => skipBlank_of_notBlank more (by decide)
  have brace : skipBlank ['}'] = ['}'] :=
    skipBlank_of_notBlank [] (by decide)
  rw [quote_append, readFields, readString_quote]
  simp only [colon, skipBlank_quoteOrNull, readValue_quoteOrNull, brace]

/-- An object that has a field. -/
theorem readValue_object (rest : List Char) :
    readValue (fuel + 1) ('{' :: (quote key ++ rest)) =
      readFields fuel [] (quote key ++ rest) := by
  have mark : ∀ more, skipBlank ('"' :: more) = '"' :: more :=
    fun more => skipBlank_of_notBlank more (by decide)
  rw [quote_append, readValue, if_neg (by decide), if_pos rfl, mark]
  rfl

/-- Python reads the object that was printed. -/
theorem loads_stringify (rootHash : String) (txHash : Option String) :
    loads (stringify rootHash txHash) =
      .ok (.obj [("rootHash", .str rootHash), ("txHash", jsonOf txHash)]) := by
  have enough : ∃ more, 2 * (stringify rootHash txHash).toList.length + 2 =
      more + 5 := by
    refine ⟨2 * (stringify rootHash txHash).toList.length - 3, ?_⟩
    have long : 2 ≤ (stringify rootHash txHash).toList.length := by
      rw [stringify, String.toList_ofList, List.length_cons, quote_append]
      simp
    omega
  rcases enough with ⟨more, isMore⟩
  have isRead : readValue (more + 5) (stringify rootHash txHash).toList =
      some (.obj [("rootHash", .str rootHash), ("txHash", jsonOf txHash)],
        []) := by
    have isText : quote rootHash = quoteOrNull (some rootHash) := rfl
    have second := readFields_brace (more + 1) [("rootHash", .str rootHash)]
      "txHash" txHash
    rw [quote_append] at second
    rw [stringify, String.toList_ofList, readValue_object, isText,
      quote_append "txHash", readFields_comma]
    exact second
  have starts : skipBlank (stringify rootHash txHash).toList =
      (stringify rootHash txHash).toList := by
    rw [stringify, String.toList_ofList]
    exact skipBlank_of_notBlank _ (by decide)
  rw [loads, isMore, starts]
  simp only [isRead]
  rfl

end Fields

/-! ## It is one line -/

/-- A text without the line boundaries that `JSON.stringify` leaves as they
are: NEL and the two separators of Unicode. -/
def OneLine (text : String) : Prop :=
  ∀ character ∈ text.toList, character.toNat ∉ [0x85, 0x2028, 0x2029]

theorem isLineBreak_of_any {characters : List Char}
    (plain : characters.any isLineBreak = false) :
    ∀ printed ∈ characters, isLineBreak printed = false := by
  intro printed member
  have notBreak := List.any_eq_false.mp plain printed member
  exact Bool.eq_false_iff.mpr notBreak

theorem isLineBreak_escape : ∀ code ∈ List.range 0x7f,
    ((JsonWriter.escape (Char.ofNat code)).any isLineBreak) = false := by
  decide +kernel

theorem isLineBreak_jsEscape {character : Char}
    (oneLine : character.toNat ∉ [0x85, 0x2028, 0x2029]) :
    ∀ printed ∈ jsEscape character, isLineBreak printed = false := by
  by_cases ascii : character.toNat < 0x7f
  · have escaped := isLineBreak_escape character.toNat
      (List.mem_range.mpr ascii)
    rw [Char.ofNat_toNat] at escaped
    rw [jsEscape, if_pos ascii]
    exact isLineBreak_of_any escaped
  · rw [jsEscape, if_neg ascii]
    intro printed member
    rw [List.mem_singleton.mp member]
    simp only [List.mem_cons, List.not_mem_nil, or_false, not_or] at oneLine
    rw [isLineBreak, List.contains_eq_mem, decide_eq_false_iff_not]
    simp only [List.mem_cons, List.not_mem_nil, or_false, not_or]
    omega

theorem isLineBreak_quote {text : String} (oneLine : OneLine text) :
    ∀ printed ∈ quote text, isLineBreak printed = false := by
  intro printed member
  rw [quote, List.mem_cons, List.mem_append, List.mem_singleton] at member
  rcases member with isMark | inside | isMark
  · rw [isMark]
    rfl
  · rcases List.mem_flatMap.mp inside with ⟨character, isPart, escaped⟩
    exact isLineBreak_jsEscape (oneLine character isPart) printed escaped
  · rw [isMark]
    rfl

theorem isLineBreak_stringify {rootHash : String} {txHash : Option String}
    (rootLine : OneLine rootHash) (txLine : ∀ tx ∈ txHash, OneLine tx) :
    ∀ printed ∈ (stringify rootHash txHash).toList,
      isLineBreak printed = false := by
  have ofTx : ∀ printed ∈ quoteOrNull txHash,
      isLineBreak printed = false := by
    cases txHash with
    | none =>
        have word : "null".toList.any isLineBreak = false := by decide
        exact isLineBreak_of_any word
    | some tx => exact isLineBreak_quote (txLine tx rfl)
  have words :
      (quote "rootHash" ++ quote "txHash").any isLineBreak = false := by
    decide
  have names := isLineBreak_of_any words
  intro printed member
  rw [stringify, String.toList_ofList] at member
  simp only [List.mem_cons, List.mem_append, List.not_mem_nil, or_false]
    at member names
  rcases member with isBrace | isName | isColon | isRoot | isComma | isName |
      isColon | isTx | isBrace
  · rw [isBrace]; rfl
  · exact names printed (Or.inl isName)
  · rw [isColon]; rfl
  · exact isLineBreak_quote rootLine printed isRoot
  · rw [isComma]; rfl
  · exact names printed (Or.inr isName)
  · rw [isColon]; rfl
  · exact ofTx printed isTx
  · rw [isBrace]; rfl

theorem stripChars_ne_nil {first : Char} (rest : List Char)
    (notSpace : isSpace first = false) :
    stripChars (first :: rest) ≠ [] := by
  have starts : (first :: rest).dropWhile isSpace = first :: rest := by
    rw [List.dropWhile_cons, notSpace]
    rfl
  rw [stripChars, starts]
  intro isEmpty
  have allSpace :=
    List.dropWhile_eq_nil_iff.mp (List.reverse_eq_nil_iff.mp isEmpty)
  have isSpaced := allSpace first (List.mem_reverse.mpr List.mem_cons_self)
  rw [notSpace] at isSpaced
  cases isSpaced

/-- The line is not blank: it begins with a brace. -/
theorem strip_stringify (rootHash : String) (txHash : Option String) :
    strip (stringify rootHash txHash) ≠ "" := by
  intro isEmpty
  have noChars := congrArg String.toList isEmpty
  rw [strip, String.toList_ofList, stringify, String.toList_ofList] at noChars
  exact stripChars_ne_nil _ (by decide) noChars

end SwarmFi.ZgSidecar
