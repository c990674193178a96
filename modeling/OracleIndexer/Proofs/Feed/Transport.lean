import OracleIndexer.Proofs.Outcome
import OracleIndexer.Proofs.Text.HexDigits
import OracleIndexer.Record.FeedUpdate
set_option autoImplicit false

/-!
# Messages in words

A message travels in words: each has a header of thirty-two hexadecimal digits in front of its piece
of the message, or is padding of no more digits than a header has; either may be marked.  Where the
message is cut does not matter.  Words that carry a stream are decoded as the stream is, and a
dispatched message that carries it becomes the one row of its feeds, or is refused as the stream is.
-/

namespace OracleIndexer

open Text (AllHex)
open Text.HexWord (dropMarker)

namespace Text.HexWord

/-- Text that starts with two digits has no marker to drop. -/
theorem dropMarker_of_allHex_take {text : List Char} (h : AllHex (text.take 2)) :
    dropMarker text = text := by
  unfold dropMarker
  split
  · exact absurd (h 'x' (by simp)) (by decide)
  · rfl

end Text.HexWord

namespace Feed.Envelope

/-! ## Words that carry a stream -/

/-- An optional marker. -/
def IsMarker (marker : List Char) : Prop := marker = [] ∨ marker = ['0', 'x']

/-- A word, and the piece of the stream that it carries. -/
inductive CarriesPiece : List Char → List Char → Prop
  /-- a header and the piece behind it -/
  | share {marker header piece : List Char} (marked : IsMarker marker) (digits : AllHex header)
      (width : header.length = 32) : CarriesPiece (marker ++ (header ++ piece)) piece
  /-- padding, which carries nothing -/
  | padding {marker header : List Char} (marked : IsMarker marker) (digits : AllHex header)
      (width : header.length ≤ 32) : CarriesPiece (marker ++ header) []

/-- Words whose pieces make up a stream in order. -/
inductive Carries : List String → List Char → Prop
  | nil : Carries [] []
  | cons {word : String} {piece : List Char} {words : List String} {stream : List Char}
      (first : CarriesPiece word.toList piece) (rest : Carries words stream) :
    Carries (word :: words) (piece ++ stream)

/-- The marker of a word is dropped, and no digit of a header is taken for one. -/
theorem dropMarker_of_isMarker {marker text : List Char} (hmarker : IsMarker marker)
    (h : AllHex (text.take 2)) : dropMarker (marker ++ text) = text := by
  rcases hmarker with rfl | rfl
  · exact Text.HexWord.dropMarker_of_allHex_take h
  · rfl

theorem share_of_carriesPiece {word piece : List Char} (h : CarriesPiece word piece) :
    share word = piece := by
  cases h with
  | @share marker header piece marked digits width =>
    have hfront : (header ++ piece).take 2 = header.take 2 :=
      List.take_append_of_le_length (by omega)
    have hdigits : AllHex ((header ++ piece).take 2) := by
      rw [hfront]
      exact digits.take 2
    rw [share, dropMarker_of_isMarker marked hdigits]
    exact List.drop_left' width
  | padding marked digits width =>
    rw [share, dropMarker_of_isMarker marked (digits.take 2)]
    exact List.drop_eq_nil_of_le width

/-- The pieces are put together again, whatever the stream was cut into. -/
theorem stream_of_carries {words : List String} {stream : List Char} (h : Carries words stream) :
    Envelope.stream (words.map String.toList) = stream := by
  induction h with
  | nil => rfl
  | cons first rest ih =>
    rw [List.map_cons, Envelope.stream, List.flatMap_cons, share_of_carriesPiece first]
    exact congrArg _ ih

theorem decode_of_carries {words : List String} {stream : List Char} (h : Carries words stream)
    (format : Format) : decode format (words.map .text) = Batch.decode format stream := by
  rw [decode, streamOf_texts, stream_of_carries h, Outcome.ok_bind]

end Feed.Envelope

/-! ## Dispatched messages -/

namespace Record

open Feed.Envelope (Carries CarriesPiece decode_of_carries)

/-- Fifteen felts, the seventh of which is the nonce, stand in front of the words. -/
theorem dispatch_ofData {front behind words : List Json} {nonce : Json} (hfront : front.length = 6)
    (hbehind : behind.length = 8) :
    Payload.Dispatch.ofData (front ++ nonce :: (behind ++ words)) = .ok ⟨nonce, words⟩ := by
  have hlong : Payload.Dispatch.bodyPosition ≤ (front ++ nonce :: (behind ++ words)).length := by
    simp only [Payload.Dispatch.bodyPosition, List.length_append, List.length_cons]
    omega
  have hnonce : (front ++ nonce :: (behind ++ words)).getD Payload.Dispatch.noncePosition .null
      = nonce := by
    simp [Payload.Dispatch.noncePosition, hfront]
  have hwords : (front ++ nonce :: (behind ++ words)).drop Payload.Dispatch.bodyPosition
      = words := by
    have hassoc : front ++ nonce :: (behind ++ words) = (front ++ nonce :: behind) ++ words := by
      simp
    rw [hassoc]
    apply List.drop_left'
    simp [Payload.Dispatch.bodyPosition, hfront, hbehind]
  rw [Payload.Dispatch.ofData, if_pos hlong, hnonce, hwords]

/-- The row of a dispatched message, by what its words decode to and its nonce reads as. -/
theorem feedUpdate_of_decode {header : Block.Header} {item : Block.Item} {context : Context}
    {message : Payload.Dispatch} {batch : Feed.Batch} {nonce : Json}
    (hpayload : Payload.Dispatch.ofData item.event.data = .ok message)
    (hdecode : Feed.Envelope.decode context.format message.words = .ok batch)
    (hnonce : Felt.column message.nonce = .ok nonce) :
    feedUpdate header item context = .ok [.row
      (("network", .text context.network) :: blockColumns header item
        ++ [("hyperlane_message_nonce", nonce),
          ("feeds_updated", .array (batch.ids.map .text))])] := by
  simp only [feedUpdate, payload, hpayload, hdecode, hnonce, Outcome.mapError_ok, Outcome.ok_bind,
    Outcome.pure_eq_ok]

/-- Words that carry a stream decode as the stream does, by any format.  A message whose data are
fifteen felts and such words becomes one row, with the feeds of the stream and the value of the
seventh felt as its nonce, or is refused as the stream is. -/
theorem transparent_of_carries {words : List String} {stream : List Char}
    (h : Carries words stream) :
    (∀ format, Feed.Envelope.decode format (words.map .text) = Feed.Batch.decode format stream) ∧
    ∀ (header : Block.Header) (item : Block.Item) (context : Context) (front behind : List Json)
      (felt nonce : Json), front.length = 6 → behind.length = 8 →
      item.event.data = front ++ felt :: (behind ++ words.map .text) →
      Felt.column felt = .ok nonce →
      (∀ batch, Feed.Batch.decode context.format stream = .ok batch →
        ∃ columns, feedUpdate header item context = .ok [.row columns] ∧
          Json.member? columns "feeds_updated" = some (.array (batch.ids.map .text)) ∧
          Json.member? columns "hyperlane_message_nonce" = some nonce) ∧
      ∀ fault, Feed.Batch.decode context.format stream = .error fault →
        feedUpdate header item context = .error fault := by
  refine ⟨decode_of_carries h, ?_⟩
  intro header item context front behind felt nonce hfront hbehind hdata hnonce
  have hpayload : Payload.Dispatch.ofData item.event.data = .ok ⟨felt, words.map .text⟩ := by
    rw [hdata]
    exact dispatch_ofData hfront hbehind
  have hwords := decode_of_carries h context.format
  constructor
  · intro batch hbatch
    refine ⟨_, feedUpdate_of_decode hpayload (hwords.trans hbatch) hnonce, ?_, ?_⟩
    · rfl
    · rfl
  · intro fault hfault
    rw [feedUpdate, payload, hpayload, Outcome.mapError_ok, Outcome.ok_bind, hwords, hfault,
      Outcome.error_bind]

/-- A record of zeros behind its count, cut within the count and with padding in between. -/
private def cutZeros (n : Nat) : List String :=
  [String.ofList ('0' :: 'x' :: (List.replicate 32 '0' ++ ['0', '0'])), "0x12cD", "",
    String.ofList (List.replicate 32 'f' ++ '0' :: '1' :: List.replicate n '0')]

private theorem carries_cutZeros (n : Nat) :
    Carries (cutZeros n) ('0' :: '0' :: '0' :: '1' :: List.replicate n '0') := by
  have hzeros : AllHex (List.replicate 32 '0') := Text.allHex_iff_all.mpr (by decide)
  have hletters : AllHex (List.replicate 32 'f') := Text.allHex_iff_all.mpr (by decide)
  have hshort : AllHex ['1', '2', 'c', 'D'] := Text.allHex_iff_all.mpr (by decide)
  have hnone : AllHex [] := Text.allHex_iff_all.mpr rfl
  have hfirst : CarriesPiece
      (String.ofList ('0' :: 'x' :: (List.replicate 32 '0' ++ ['0', '0']))).toList ['0', '0'] := by
    rw [String.toList_ofList]
    exact .share (.inr rfl) hzeros List.length_replicate
  have hmarked : CarriesPiece "0x12cD".toList [] :=
    .padding (.inr rfl) hshort (by decide)
  have hempty : CarriesPiece "".toList [] := .padding (.inl rfl) hnone (by decide)
  have hlast : CarriesPiece
      (String.ofList (List.replicate 32 'f' ++ '0' :: '1' :: List.replicate n '0')).toList
      ('0' :: '1' :: List.replicate n '0') := by
    rw [String.toList_ofList]
    exact .share (.inl rfl) hletters List.length_replicate
  have hwords := Carries.cons hfirst (.cons hmarked (.cons hempty (.cons hlast .nil)))
  rw [List.append_nil] at hwords
  exact hwords

/-- An event that dispatches the cut record. -/
private def cutItem (n : Nat) : Block.Item where
  event := ⟨.null, [], List.replicate 6 .null ++ .text "0x05" ::
    (List.replicate 8 .null ++ (cutZeros n).map .text), 0⟩
  transactionHash := .null
  senderAddress := .null

set_option maxRecDepth 4000 in
/-- A cut record of zeros is told of with its id and nonce; without its last character the message
is refused as too short. -/
theorem transparent_of_carries_cut :
    Carries (cutZeros 214) ('0' :: '0' :: '0' :: '1' :: List.replicate 214 '0') ∧
    Carries (cutZeros 213) ('0' :: '0' :: '0' :: '1' :: List.replicate 213 '0') ∧
    Felt.column (.text "0x05") = .ok (.int 5) ∧
    (∃ columns, feedUpdate ⟨7, .null, .null⟩ (cutItem 214)
        ⟨"net", ⟨some .assetClassGated, some .decimal⟩⟩ = .ok [.row columns] ∧
      Json.member? columns "feeds_updated"
        = some (.array [.text (String.ofList ('0' :: 'x' :: List.replicate 64 '0'))]) ∧
      Json.member? columns "hyperlane_message_nonce" = some (.int 5)) ∧
    feedUpdate ⟨7, .null, .null⟩ (cutItem 213) ⟨"net", ⟨some .assetClassGated, some .decimal⟩⟩
      = .error (.codec (.truncated 218 217)) := by
  obtain ⟨_, hwhole⟩ := transparent_of_carries (carries_cutZeros 214)
  obtain ⟨_, hcut⟩ := transparent_of_carries (carries_cutZeros 213)
  have hnonce : Felt.column (.text "0x05") = .ok (.int 5) := rfl
  obtain ⟨hrow, _⟩ := hwhole ⟨7, .null, .null⟩ (cutItem 214)
    ⟨"net", ⟨some .assetClassGated, some .decimal⟩⟩ _ _ _ _ List.length_replicate
    List.length_replicate rfl hnonce
  obtain ⟨_, hrefused⟩ := hcut ⟨7, .null, .null⟩ (cutItem 213)
    ⟨"net", ⟨some .assetClassGated, some .decimal⟩⟩ _ _ _ _ List.length_replicate
    List.length_replicate rfl hnonce
  exact ⟨carries_cutZeros 214, carries_cutZeros 213, hnonce,
    hrow ⟨[String.ofList ('0' :: 'x' :: List.replicate 64 '0')], 1, 0⟩ rfl, hrefused _ rfl⟩

end Record

end OracleIndexer
