import SwarmFi.Core.Storage.Models

/-!
# Models without data

How pydantic writes the models whose dicts are empty, and codecs that know a
few of them.  They stand in for the real codecs where a run is given in full.
-/

namespace SwarmFi.Core.Storage

open Python

/-! ## Codecs that know a few models -/

/-- The codec that writes and reads by looking the model or its dump up. -/
def ModelCodec.lookup {α : Type}
    (known : List (α × Bytes)) (same : α → α → Bool) : ModelCodec α where
  encode := fun model =>
    match known.find? fun row => same row.1 model with
    | some row => row.2
    | none => []
  decode := fun text =>
    match known.find? fun row => row.2 = text with
    | some row => .ok row.1
    | none => .error ⟨.valueError, "no such model"⟩

/-- The codec that knows the given models and their dumps. -/
def ModelCodec.table {α : Type}
    (known : List (α × Bytes)) (same : α → α → Bool) : ModelCodec α :=
  (ModelCodec.lookup known same).apart
    (fun model => known.any fun row => same row.1 model) []

theorem ModelCodec.decode_lookup {α : Type}
    {known : List (α × Bytes)} {same : α → α → Bool}
    (isSame : ∀ row ∈ known, ∀ model, same row.1 model = true →
      row.1 = model)
    (distinct : (known.map Prod.snd).Nodup) (model : α)
    (isKnown : (known.any fun row => same row.1 model) = true) :
    (ModelCodec.lookup known same).decode
        ((ModelCodec.lookup known same).encode model) = .ok model := by
  simp only [ModelCodec.lookup]
  cases found : known.find? fun row => same row.1 model with
  | none =>
      obtain ⟨row, member, fits⟩ := List.any_eq_true.mp isKnown
      exact absurd fits (List.find?_eq_none.mp found row member)
  | some row =>
      have member := List.mem_of_find?_eq_some found
      have fits := List.find?_some found
      have isModel := isSame row member model fits
      simp only
      cases again : known.find? fun other => other.2 = row.2 with
      | none =>
          have none_ := List.find?_eq_none.mp again row member
          simp at none_
      | some other =>
          have sameText : other.2 = row.2 := by
            simpa using List.find?_some again
          have sameRow : other = row :=
            List.inj_on_of_nodup_map distinct
              (List.mem_of_find?_eq_some again) member sameText
          rw [← isModel, sameRow]

theorem ModelCodec.inverseOn_table {α : Type}
    {known : List (α × Bytes)} {same : α → α → Bool}
    {texts : Bytes → Prop}
    (isSame : ∀ row ∈ known, ∀ model, same row.1 model = true →
      row.1 = model)
    (distinct : (known.map Prod.snd).Nodup) (notEmpty : ¬ texts []) :
    (ModelCodec.table known same).InverseOn texts :=
  ModelCodec.inverseOn_apart (ModelCodec.decode_lookup isSame distinct)
    notEmpty

/-! ## Texts -/

def quoted (text : String) : String :=
  "\"" ++ text ++ "\""

def optionalText : Option String → String
  | none => "null"
  | some text => quoted text

/-- A UTC datetime as pydantic writes it. -/
def utcText (iso : String) : String :=
  quoted (String.ofList (iso.toList.take (iso.length - 6)) ++ "Z")

def statusValue : AgentStatus → String
  | .idle => "idle"
  | .scanning => "scanning"
  | .deciding => "deciding"
  | .executing => "executing"
  | .error => "error"

def AgentState.plainText (state : AgentState) : String :=
  "\x7b\"agent_role\":" ++ quoted state.agentRole ++
    ",\"status\":" ++ quoted (statusValue state.status) ++
    ",\"last_seen\":" ++ utcText state.lastSeen ++
    ",\"last_signal\":\x7b\x7d,\"last_risk_score\":null" ++
    ",\"last_tx_hash\":" ++ optionalText state.lastTxHash ++
    ",\"error_message\":" ++ optionalText state.errorMessage ++
    ",\"metadata\":\x7b\x7d\x7d"

def SwarmState.plainText (swarm : SwarmState) : String :=
  "\x7b\"version\":" ++ toString swarm.version ++
    ",\"updated_at\":" ++ utcText swarm.updatedAt ++
    ",\"agents\":\x7b" ++
    ",".intercalate (swarm.agents.items.map fun item =>
      quoted item.1 ++ ":" ++ item.2.plainText) ++
    "\x7d,\"active_opportunity\":null,\"swarm_metadata\":\x7b\x7d\x7d"

def LogEntry.plainText (entry : LogEntry) : String :=
  "\x7b\"entry_id\":" ++ quoted entry.entryId ++
    ",\"event_type\":" ++ quoted (eventTypeValue entry.eventType) ++
    ",\"agent_role\":" ++ quoted entry.agentRole ++
    ",\"timestamp\":" ++ utcText entry.timestamp ++
    ",\"data\":\x7b\x7d,\"root_hash\":" ++ optionalText entry.rootHash ++
    "\x7d"

def LogIndex.plainText (index : LogIndex) : String :=
  "\x7b\"entries\":[" ++ ",".intercalate (index.entries.map quoted) ++
    "],\"entry_count\":" ++ toString index.entryCount ++
    ",\"last_updated\":" ++ utcText index.lastUpdated ++ "\x7d"

/-! ## Equal models -/

/-- The same state, without data. -/
def AgentState.samePlain (first second : AgentState) : Bool :=
  first.agentRole = second.agentRole && first.status = second.status &&
    first.lastSeen = second.lastSeen && first.lastSignal.isEmpty &&
      second.lastSignal.isEmpty && first.lastRiskScore.isNone &&
        second.lastRiskScore.isNone &&
          first.lastTxHash = second.lastTxHash &&
            first.errorMessage = second.errorMessage &&
              first.metadata.isEmpty && second.metadata.isEmpty

theorem AgentState.eq_of_samePlain
    {first second : AgentState} (same : first.samePlain second = true) :
    first = second := by
  obtain ⟨role, status, seen, signal, score, tx, message, metadata⟩ := first
  cases second
  simp only [samePlain, Bool.and_eq_true, decide_eq_true_eq,
    List.isEmpty_iff, Option.isNone_iff_eq_none] at same
  obtain ⟨⟨⟨⟨⟨⟨⟨⟨⟨⟨rfl, rfl⟩, rfl⟩, rfl⟩, rfl⟩, rfl⟩, rfl⟩, rfl⟩, rfl⟩, rfl⟩,
    rfl⟩ := same
  rfl

def sameAgents :
    List (String × AgentState) → List (String × AgentState) → Bool
  | [], [] => true
  | (role, state) :: rest, (otherRole, otherState) :: others =>
      role = otherRole && state.samePlain otherState &&
        sameAgents rest others
  | _, _ => false

theorem eq_of_sameAgents
    {first second : List (String × AgentState)}
    (same : sameAgents first second = true) : first = second := by
  induction first generalizing second with
  | nil =>
      cases second with
      | nil => rfl
      | cons _ _ => cases same
  | cons item rest inductionHypothesis =>
      cases second with
      | nil => cases same
      | cons other others =>
          obtain ⟨role, state⟩ := item
          obtain ⟨otherRole, otherState⟩ := other
          simp only [sameAgents, Bool.and_eq_true, decide_eq_true_eq] at same
          obtain ⟨⟨rfl, sameState⟩, sameRest⟩ := same
          rw [AgentState.eq_of_samePlain sameState,
            inductionHypothesis sameRest]

/-- The same state of the swarm, without data. -/
def SwarmState.samePlain (first second : SwarmState) : Bool :=
  first.version = second.version && first.updatedAt = second.updatedAt &&
    sameAgents first.agents.items second.agents.items &&
      first.activeOpportunity.isNone && second.activeOpportunity.isNone &&
        first.swarmMetadata.isEmpty && second.swarmMetadata.isEmpty

theorem SwarmState.eq_of_samePlain
    {first second : SwarmState} (same : first.samePlain second = true) :
    first = second := by
  obtain ⟨version, updatedAt, agents, opportunity, metadata⟩ := first
  cases second
  simp only [samePlain, Bool.and_eq_true, decide_eq_true_eq,
    List.isEmpty_iff, Option.isNone_iff_eq_none] at same
  obtain ⟨⟨⟨⟨⟨⟨rfl, rfl⟩, sameItems⟩, rfl⟩, rfl⟩, rfl⟩, rfl⟩ := same
  rw [Mapping.ext_items (eq_of_sameAgents sameItems)]

/-- The same entry, without data. -/
def LogEntry.samePlain (first second : LogEntry) : Bool :=
  first.entryId = second.entryId && first.eventType = second.eventType &&
    first.agentRole = second.agentRole &&
      first.timestamp = second.timestamp && first.data.isEmpty &&
        second.data.isEmpty && first.rootHash = second.rootHash

theorem LogEntry.eq_of_samePlain
    {first second : LogEntry} (same : first.samePlain second = true) :
    first = second := by
  obtain ⟨entryId, eventType, agentRole, timestamp, data, rootHash⟩ := first
  simp only [samePlain, Bool.and_eq_true, decide_eq_true_eq,
    List.isEmpty_iff] at same
  obtain ⟨⟨⟨⟨⟨⟨rfl, rfl⟩, rfl⟩, rfl⟩, rfl⟩, noData⟩, rfl⟩ := same
  rw [← noData]

def LogIndex.same (first second : LogIndex) : Bool :=
  first = second

/-- The codecs that know the given models. -/
def plainModels
    (agents : List AgentState) (swarms : List SwarmState)
    (entries : List LogEntry) (indexes : List LogIndex) : Models where
  agentState := .table
    (agents.map fun model => (model, encode model.plainText))
    AgentState.samePlain
  swarmState := .table
    (swarms.map fun model => (model, encode model.plainText))
    SwarmState.samePlain
  logEntry := .table
    (entries.map fun model => (model, encode model.plainText))
    LogEntry.samePlain
  logIndex := .table
    (indexes.map fun model => (model, encode model.plainText))
    LogIndex.same

/-- The texts of the models are all different. -/
structure DistinctTexts
    (agents : List AgentState) (swarms : List SwarmState)
    (entries : List LogEntry) (indexes : List LogIndex) : Prop where
  agents : (agents.map AgentState.plainText).Nodup
  swarms : (swarms.map SwarmState.plainText).Nodup
  entries : (entries.map LogEntry.plainText).Nodup
  indexes : (indexes.map LogIndex.plainText).Nodup

theorem plainModels_inverseOn
    {agents : List AgentState} {swarms : List SwarmState}
    {entries : List LogEntry} {indexes : List LogIndex}
    (distinct : DistinctTexts agents swarms entries indexes)
    {texts : Bytes → Prop} (notEmpty : ¬ texts []) :
    (plainModels agents swarms entries indexes).InverseOn texts := by
  have encoded {α : Type} {models : List α} {text : α → String}
      (different : (models.map text).Nodup) :
      ((models.map fun model => (model, encode (text model))).map
        Prod.snd).Nodup := by
    have encodedTexts :
        (models.map fun model => (model, encode (text model))).map
            Prod.snd =
          (models.map text).map encode := by
      simp [Function.comp_def]
    rw [encodedTexts]
    exact different.map fun _ _ same => encode_injective same
  refine ⟨?_, ?_, ?_, ?_⟩
  · exact ModelCodec.inverseOn_table
      (fun _ _ _ same => AgentState.eq_of_samePlain same)
      (encoded distinct.agents) notEmpty
  · exact ModelCodec.inverseOn_table
      (fun _ _ _ same => SwarmState.eq_of_samePlain same)
      (encoded distinct.swarms) notEmpty
  · exact ModelCodec.inverseOn_table
      (fun _ _ _ same => LogEntry.eq_of_samePlain same)
      (encoded distinct.entries) notEmpty
  · exact ModelCodec.inverseOn_table
      (fun _ _ _ same => of_decide_eq_true same)
      (encoded distinct.indexes) notEmpty

end SwarmFi.Core.Storage
