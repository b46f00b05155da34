import SwarmFi.Python.Numeral
import SwarmFi.Core.Uniswap.Nonces

/-!
# What is signed for a transaction request

The value of a request is read in the base that its text announces, the fees
and the gas limit always in base 16.  The gas limit is left out as soon as
there is a fee, and the priority fee as soon as there is none.
-/

namespace SwarmFi.Core.Uniswap.Transcription

open Foundation Python Compute SwapSteps SwapExecutor

/-! ## Numeric strings -/

/-- Decimal digits, or hexadecimal ones behind `0x`. -/
def IsNumeric (text : String) : Prop :=
  match text.toList with
  | '0' :: 'x' :: digits => IsNumeral 16 digits
  | characters => IsNumeral 10 characters

/-- The number that a numeric string denotes. -/
def denoted (text : String) : Nat :=
  match text.toList with
  | '0' :: 'x' :: digits => valueIn 16 digits
  | characters => valueIn 10 characters

instance (text : String) : Decidable (IsNumeric text) := by
  unfold IsNumeric
  split <;> exact inferInstance

/-- The two kinds of numeric strings. -/
theorem IsNumeric.cases {text : String} (numeric : IsNumeric text) :
    (∃ digits, text.toList = '0' :: 'x' :: digits ∧ IsNumeral 16 digits ∧
        denoted text = valueIn 16 digits) ∨
      (startsWith text "0x" = false ∧ IsNumeral 10 text.toList ∧
        denoted text = valueIn 10 text.toList) := by
  unfold IsNumeric at numeric
  unfold denoted
  split at numeric
  · next digits isText =>
      left
      exact ⟨digits, isText, numeric, rfl⟩
  · next unmarked =>
      right
      refine ⟨?_, numeric, rfl⟩
      rw [Bool.eq_false_iff, ne_eq, startsWith_mark_iff]
      intro marked
      obtain ⟨rest, isText⟩ := marked
      exact unmarked rest isText

theorem IsNumeric.truthy {text : String} (numeric : IsNumeric text) :
    truthy (some text) = true := by
  rw [truthy_some, decide_eq_true_eq]
  intro empty
  rw [empty] at numeric
  exact numeric.1 rfl

/-! ## What is read -/

/-- A value that is read is the number denoted; decimal text may be too
long. -/
theorem valueOf_numeric {text : String} (numeric : IsNumeric text)
    {value : Int} (read : valueOf text = .ok value) :
    value = denoted text := by
  unfold valueOf intOf at read
  rcases numeric.cases with ⟨digits, isText, numeral, isDenoted⟩ |
    ⟨unmarked, numeral, isDenoted⟩
  · have marked : startsWith text "0x" = true :=
      (startsWith_mark_iff text).mpr ⟨digits, isText⟩
    rw [if_pos marked, parseInt_of_marked isText numeral] at read
    rw [isDenoted]
    exact (Except.ok.inj read).symm
  · rw [unmarked, if_neg Bool.false_ne_true,
      parseInt_of_numeral (by decide) numeral] at read
    by_cases tooMany : tooManyDigits 10 text.toList = true
    · rw [if_pos tooMany] at read
      cases read
    · rw [if_neg tooMany] at read
      rw [isDenoted]
      exact (Except.ok.inj read).symm

/-- In base 16 the number denoted is read from a hexadecimal string and from a
single decimal digit, which zeros may precede. -/
def ReadInHex (text : String) : Prop :=
  startsWith text "0x" = true ∨ denoted text < 10

theorem intOf_numeric {text : String} (numeric : IsNumeric text) :
    ∃ value : Nat, intOf 16 text = .ok (value : Int) ∧
      (value = denoted text ↔ ReadInHex text) := by
  unfold intOf ReadInHex
  rcases numeric.cases with ⟨digits, isText, numeral, isDenoted⟩ |
    ⟨unmarked, numeral, isDenoted⟩
  · have marked : startsWith text "0x" = true :=
      (startsWith_mark_iff text).mpr ⟨digits, isText⟩
    rw [parseInt_of_marked isText numeral]
    exact ⟨_, rfl, iff_of_true isDenoted.symm (Or.inl marked)⟩
  · have inHex : IsNumeral 16 text.toList := numeral.mono (by decide)
    have few : tooManyDigits 16 text.toList = false := rfl
    rw [parseInt_of_numeral (Nat.le_refl 16) inHex, few]
    refine ⟨_, rfl, ?_⟩
    rw [isDenoted, valueIn_eq_iff (by decide) (by decide) numeral,
      unmarked, or_iff_right Bool.false_ne_true]

/-! ## Requests -/

/-- Every number that the request carries is a numeric string. -/
structure NumericStrings (request : TransactionRequest) : Prop where
  value : IsNumeric request.value
  gasLimit : ∀ text, request.gasLimit = some text → IsNumeric text
  maxFeePerGas : ∀ text, request.maxFeePerGas = some text → IsNumeric text
  maxPriorityFeePerGas : ∀ text,
    request.maxPriorityFeePerGas = some text → IsNumeric text

/-- What is signed says what the request says. -/
structure Transcribed (request : TransactionRequest)
    (signed : SignedTransaction) : Prop where
  toAddress : signed.toAddress = request.toAddress
  data : signed.data = request.data
  chainId : signed.chainId = request.chainId
  value : signed.value = denoted request.value
  gasLimit : ∀ text, request.gasLimit = some text →
    signed.gas = some (denoted text : Int)
  maxFeePerGas : ∀ text, request.maxFeePerGas = some text →
    signed.maxFeePerGas = some (denoted text : Int)
  maxPriorityFeePerGas : ∀ text,
    request.maxPriorityFeePerGas = some text →
      signed.maxPriorityFeePerGas = some (denoted text : Int)

/-- Either there is a fee, no gas limit, and every fee is read in base 16;
or there is no fee at all, and the gas limit is. -/
inductive Convertible (request : TransactionRequest) : Prop where
  | fees (fee : String) (isFee : request.maxFeePerGas = some fee)
      (noLimit : request.gasLimit = none) (feeRead : ReadInHex fee)
      (priorityRead : ∀ priority,
        request.maxPriorityFeePerGas = some priority → ReadInHex priority)
  | gasOnly (noFee : request.maxFeePerGas = none)
      (noPriority : request.maxPriorityFeePerGas = none)
      (gasRead : ∀ gas, request.gasLimit = some gas → ReadInHex gas)

/-! ## What the dict says -/

section Fields

variable {request : TransactionRequest} {sender : String} {nonce : Nat}
  {signed : SignedTransaction} (numeric : NumericStrings request)

/-- What the dict has on every branch. -/
structure Copied (request : TransactionRequest)
    (signed : SignedTransaction) : Prop where
  toAddress : signed.toAddress = request.toAddress
  data : signed.data = request.data
  chainId : signed.chainId = request.chainId
  value : valueOf request.value = .ok signed.value

/-- With a fee both fees are read in base 16, and there is no gas limit. -/
theorem fees_of_made {fee : String} (isFee : request.maxFeePerGas = some fee)
    (feeText : truthy (some fee) = true)
    (made : transactionFor request sender nonce = .ok signed) :
    Copied request signed ∧ signed.gas = none ∧
      ∃ maxFee priority, intOf 16 fee = .ok maxFee ∧
        intOf 16 (orElse (request.maxPriorityFeePerGas.getD "") "0x0") =
          .ok priority ∧
        signed.maxFeePerGas = some maxFee ∧
          signed.maxPriorityFeePerGas = some priority := by
  simp only [transactionFor, bind_eq_ok_iff] at made
  obtain ⟨value, isValue, made⟩ := made
  rw [isFee, if_pos feeText] at made
  simp only [bind_eq_ok_iff] at made
  obtain ⟨maxFee, isMaxFee, priority, isPriority, made⟩ := made
  cases made
  exact ⟨⟨rfl, rfl, rfl, isValue⟩, rfl, maxFee, priority, isMaxFee,
    isPriority, rfl, rfl⟩

/-- Without a fee there is only the gas limit, which is read in base 16. -/
theorem gas_of_made (noFee : request.maxFeePerGas = none)
    (made : transactionFor request sender nonce = .ok signed) :
    Copied request signed ∧ signed.maxFeePerGas = none ∧
      signed.maxPriorityFeePerGas = none ∧
        ∀ text, request.gasLimit = some text → truthy (some text) = true →
          ∃ gas, intOf 16 text = .ok gas ∧ signed.gas = some gas := by
  simp only [transactionFor, bind_eq_ok_iff] at made
  obtain ⟨value, isValue, made⟩ := made
  rw [noFee, if_neg (by decide)] at made
  by_cases limited : truthy request.gasLimit = true
  · rw [if_pos limited] at made
    simp only [bind_eq_ok_iff] at made
    obtain ⟨gas, isGas, made⟩ := made
    cases made
    refine ⟨⟨rfl, rfl, rfl, isValue⟩, rfl, rfl, ?_⟩
    intro text isText _
    rw [isText] at isGas
    exact ⟨gas, isGas, rfl⟩
  · rw [if_neg limited] at made
    cases made
    refine ⟨⟨rfl, rfl, rfl, isValue⟩, rfl, rfl, ?_⟩
    intro text isText isTruthy
    rw [isText] at limited
    exact absurd isTruthy limited

/-- A number read in base 16 is the one denoted exactly when the string can be
read so. -/
theorem some_eq_denoted_iff {text : String} (isNumeric : IsNumeric text)
    {value : Int} (read : intOf 16 text = .ok value) :
    (some value = some (denoted text : Int)) ↔ ReadInHex text := by
  obtain ⟨found, isFound, exact_⟩ := intOf_numeric isNumeric
  rw [isFound] at read
  cases read
  rw [Option.some_inj, Int.natCast_inj]
  exact exact_

include numeric in
/-- What is signed is what the request says exactly when the request can be
converted. -/
theorem transcribed_of_made
    (made : transactionFor request sender nonce = .ok signed) :
    Transcribed request signed ↔ Convertible request := by
  cases isFee : request.maxFeePerGas with
  | some fee =>
      have feeNumeric := numeric.maxFeePerGas fee isFee
      obtain ⟨copied, noGas, maxFee, priority, readFee, readPriority,
        isMaxFee, isPriority⟩ :=
          fees_of_made isFee feeNumeric.truthy made
      have readsPriority : ∀ text,
          request.maxPriorityFeePerGas = some text →
            intOf 16 text = .ok priority := by
        intro text isText
        have named :=
          (numeric.maxPriorityFeePerGas text isText).truthy
        rw [truthy_some, decide_eq_true_eq] at named
        rw [isText] at readPriority
        unfold orElse at readPriority
        rw [Option.getD_some, if_neg named] at readPriority
        exact readPriority
      constructor
      · intro transcribed
        apply Convertible.fees fee isFee
        · cases isLimit : request.gasLimit with
          | none => rfl
          | some text =>
              have given := transcribed.gasLimit text isLimit
              rw [noGas] at given
              cases given
        · have given := transcribed.maxFeePerGas fee isFee
          rw [isMaxFee] at given
          exact (some_eq_denoted_iff feeNumeric readFee).mp given
        · intro text isText
          have given := transcribed.maxPriorityFeePerGas text isText
          rw [isPriority] at given
          exact (some_eq_denoted_iff
            (numeric.maxPriorityFeePerGas text isText)
            (readsPriority text isText)).mp given
      · intro convertible
        cases convertible with
        | gasOnly noFee _ _ =>
            rw [isFee] at noFee
            cases noFee
        | fees other isOther noLimit feeRead priorityRead =>
            rw [isFee] at isOther
            cases isOther
            constructor
            · exact copied.toAddress
            · exact copied.data
            · exact copied.chainId
            · exact valueOf_numeric numeric.value copied.value
            · intro text isText
              rw [noLimit] at isText
              cases isText
            · intro text isText
              rw [isFee] at isText
              cases isText
              rw [isMaxFee]
              exact (some_eq_denoted_iff feeNumeric readFee).mpr feeRead
            · intro text isText
              rw [isPriority]
              exact (some_eq_denoted_iff
                (numeric.maxPriorityFeePerGas text isText)
                (readsPriority text isText)).mpr (priorityRead text isText)
  | none =>
      obtain ⟨copied, noMaxFee, noPriority, readGas⟩ :=
        gas_of_made isFee made
      constructor
      · intro transcribed
        apply Convertible.gasOnly isFee
        · cases isPriority : request.maxPriorityFeePerGas with
          | none => rfl
          | some text =>
              have given :=
                transcribed.maxPriorityFeePerGas text isPriority
              rw [noPriority] at given
              cases given
        · intro text isText
          have gasNumeric := numeric.gasLimit text isText
          obtain ⟨gas, isRead, isGas⟩ :=
            readGas text isText gasNumeric.truthy
          have given := transcribed.gasLimit text isText
          rw [isGas] at given
          exact (some_eq_denoted_iff gasNumeric isRead).mp given
      · intro convertible
        cases convertible with
        | fees fee given _ _ _ =>
            rw [isFee] at given
            cases given
        | gasOnly _ priorityMissing gasRead =>
            constructor
            · exact copied.toAddress
            · exact copied.data
            · exact copied.chainId
            · exact valueOf_numeric numeric.value copied.value
            · intro text isText
              have gasNumeric := numeric.gasLimit text isText
              obtain ⟨gas, isRead, isGas⟩ :=
                readGas text isText gasNumeric.truthy
              rw [isGas]
              exact (some_eq_denoted_iff gasNumeric isRead).mpr
                (gasRead text isText)
            · intro text isText
              rw [isFee] at isText
              cases isText
            · intro text isText
              rw [priorityMissing] at isText
              cases isText

end Fields

/-! ## What is handed to be signed -/

def dictOf : Event SwapVocabulary → Option SignedTransaction
  | ⟨.signTransaction signed, _⟩ => some signed
  | _ => none

/-- The dicts that were handed to `sign_transaction`. -/
def handed (events : List (Event SwapVocabulary)) :
    List SignedTransaction :=
  events.filterMap dictOf

/-- Only the dict of the request is signed. -/
def Signs (request : TransactionRequest) : SwapCall → Prop
  | .signTransaction signed =>
      ∃ sender nonce, transactionFor request sender nonce = .ok signed
  | _ => True

theorem uses_broadcast (executor : SwapExecutor)
    (request : TransactionRequest) :
    (executor.broadcast request).Uses (Signs request) := by
  apply (uses_connect trivial).bind
  intro _
  have keys : (fromKey executor.privateKey).Uses (Signs request) :=
    ⟨trivial, fun answer => Program.uses_ofExcept answer⟩
  apply keys.bind
  intro sender
  have counts : (getTransactionCount sender).Uses (Signs request) :=
    ⟨trivial, fun answer => Program.uses_ofExcept answer⟩
  apply counts.bind
  intro nonce
  unfold signAndSend
  cases made : transactionFor request sender nonce with
  | error exc => trivial
  | ok signed =>
      have signs : (signTransaction signed).Uses (Signs request) :=
        ⟨⟨sender, nonce, made⟩, fun answer => Program.uses_ofExcept answer⟩
      apply signs.bind
      intro _
      exact ⟨trivial, fun answer => Program.uses_ofExcept answer⟩

/-- The dict that a broadcast hands to be signed says what the request says
exactly when the request can be converted. -/
theorem transcribed_iff {σ : Type}
    (environment : Environment SwapVocabulary σ) (state : σ)
    (executor : SwapExecutor) {request : TransactionRequest}
    (numeric : NumericStrings request) {signed : SignedTransaction}
    (isHanded : signed ∈
      handed ((executor.broadcast request).trace environment state)) :
    Transcribed request signed ↔ Convertible request := by
  obtain ⟨event, member, isDict⟩ := List.mem_filterMap.mp isHanded
  have signs :=
    (uses_broadcast executor request).trace environment state event member
  obtain ⟨call, answer⟩ := event
  cases call with
  | signTransaction made =>
      cases isDict
      obtain ⟨sender, nonce, isMade⟩ := signs
      exact transcribed_of_made numeric isMade
  | _ => cases isDict

/-! ## The mock's transaction -/

/-- The transaction of the mock API, with less data. -/
def mockTransaction : TransactionRequest where
  toAddress := "0x3fC91A3afd70395Cd496C647d5a6CC9D4B2b7FAD"
  data := "0xabab"
  value := "1000000000000000000"
  chainId := baseChainId
  gasLimit := some "300000"
  data_not_empty := Nonces.swapTransaction.data_not_empty

def answering : Environment SwapVocabulary Unit :=
  fun _ request => (Nonces.approvingAnswers request, ())

def mockSigned : SignedTransaction :=
  { Nonces.firstSigned mockTransaction with
    value := 1000000000000000000
    gas := some 3145728 }

theorem mockTransaction_numeric : NumericStrings mockTransaction where
  value := by decide +kernel
  gasLimit := by
    intro text isText
    cases isText
    decide +kernel
  maxFeePerGas := by
    intro text isText
    cases isText
  maxPriorityFeePerGas := by
    intro text isText
    cases isText

theorem handed_mock :
    handed ((Nonces.liveExecutor.broadcast mockTransaction).trace answering
      ()) = [mockSigned] := by
  decide +kernel

theorem mem_handed_mock :
    mockSigned ∈ handed ((Nonces.liveExecutor.broadcast
      mockTransaction).trace answering ()) := by
  rw [handed_mock]
  exact List.mem_singleton_self _

theorem transcribed_iff_mock :
    Transcribed mockTransaction mockSigned ↔ Convertible mockTransaction :=
  transcribed_iff answering () Nonces.liveExecutor mockTransaction_numeric
    mem_handed_mock

/-- The gas limit of the mock API is read as another number. -/
theorem gas_misread :
    ¬ ∀ (σ : Type) (environment : Environment SwapVocabulary σ) (state : σ)
        (executor : SwapExecutor) (request : TransactionRequest),
      NumericStrings request →
        ∀ signed ∈ handed
            ((executor.broadcast request).trace environment state),
          Transcribed request signed := by
  intro always
  have transcribed := always Unit answering () Nonces.liveExecutor
    mockTransaction mockTransaction_numeric mockSigned mem_handed_mock
  have given := transcribed.gasLimit "300000" rfl
  have denotes : denoted "300000" = 300000 := by
    decide +kernel
  rw [denotes] at given
  cases given

end SwarmFi.Core.Uniswap.Transcription
