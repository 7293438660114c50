/-
A sticker pack from the response that describes it.

The stickers are sorted by their places in a list of ids that comes with the response.  A
sticker that the list leaves out has no place, and looking for it raises.
-/

import Pybotx.Client.StickersApi
import Pybotx.Foundation.KeySort
import Pybotx.Models.ApiAttachments

set_option autoImplicit false

namespace Pybotx

open Returning KeySort

structure StickerPack where
  id : UUID
  name : String
  isPublic : Bool
  stickers : List Sticker

/-- The answer of `GetStickerPackMethod` and of `EditStickerPackMethod`. -/
abbrev BotXAPIGetStickerPackResponsePayload := OkPayload BotXAPIGetStickerPackResult

def indexIn (order : List UUID) (id : UUID) : Result Nat :=
  if id ∈ order then .ok (order.idxOf id)
  else .error (.valueError ("UUID('" ++ id.str ++ "') is not in list"))

namespace BotXAPIGetStickerPackResult

def sticker (result : BotXAPIGetStickerPackResult) (sticker : BotXAPIGetStickerResult) :
    Sticker where
  id := sticker.id
  emoji := sticker.emoji
  imageLink := sticker.link
  packId := result.id

/-- `if self.result.stickers_order:` -/
def sortedStickers (result : BotXAPIGetStickerPackResult) :
    Result (List BotXAPIGetStickerResult) :=
  match result.stickersOrder with
  | none | some [] => .ok result.stickers
  | some (first :: rest) =>
      sortByKey (fun sticker => indexIn (first :: rest) sticker.id) result.stickers

end BotXAPIGetStickerPackResult

def BotXAPIGetStickerPackResponsePayload.toDomain
    (payload : BotXAPIGetStickerPackResponsePayload) : Result StickerPack := do
  let stickers ← payload.result.sortedStickers
  return {
    id := payload.result.id
    name := payload.result.name
    isPublic := payload.result.isPublic
    stickers := stickers.map payload.result.sticker }

/-- The pack holds the stickers of the response, those that are listed in listed order. -/
structure BotXAPIGetStickerPackResult.DescribesPack (result : BotXAPIGetStickerPackResult)
    (pack : StickerPack) : Prop where
  header : pack.id = result.id ∧ pack.name = result.name ∧ pack.isPublic = result.isPublic
  complete : pack.stickers.Perm (result.stickers.map result.sticker)
  ofPack : ∀ sticker ∈ pack.stickers, sticker.packId = result.id
  ordered : ∀ order, result.stickersOrder = some order → pack.stickers.Pairwise fun first second =>
    first.id ∈ order → second.id ∈ order → order.idxOf first.id ≤ order.idxOf second.id
  unordered : result.stickersOrder = none ∨ result.stickersOrder = some [] →
    pack.stickers = result.stickers.map result.sticker

theorem indexIn_of_mem {order : List UUID} {id : UUID} (listed : id ∈ order) :
    indexIn order id = .ok (order.idxOf id) :=
  if_pos listed

theorem indexIn_returns_iff (order : List UUID) (id : UUID) :
    Returns (indexIn order id) ↔ id ∈ order := by
  unfold indexIn
  by_cases listed : id ∈ order
  · simp [listed]
  · simp [listed]

namespace BotXAPIGetStickerPackResult

/-- The list of ids is null or empty, or it lists every sticker. -/
def OrderComplete (result : BotXAPIGetStickerPackResult) : Prop :=
  result.stickersOrder = none ∨ result.stickersOrder = some [] ∨
    ∃ order, result.stickersOrder = some order ∧ ∀ sticker ∈ result.stickers, sticker.id ∈ order

variable (result : BotXAPIGetStickerPackResult)

theorem sortedStickers_returns_iff : Returns result.sortedStickers ↔ result.OrderComplete := by
  unfold sortedStickers OrderComplete
  match ordered : result.stickersOrder with
  | none => simp
  | some [] => simp
  | some (first :: rest) =>
      simp only [sortByKey_returns_iff, indexIn_returns_iff]
      simp

theorem sortedStickers_perm {stickers : List BotXAPIGetStickerResult}
    (returned : result.sortedStickers = .ok stickers) : stickers.Perm result.stickers := by
  unfold sortedStickers at returned
  match ordered : result.stickersOrder with
  | none | some [] =>
      rw [ordered] at returned
      cases returned
      exact List.Perm.refl _
  | some (first :: rest) =>
      rw [ordered] at returned
      exact sortByKey_perm returned

theorem sortedStickers_pairwise {stickers : List BotXAPIGetStickerResult}
    (returned : result.sortedStickers = .ok stickers) (order : List UUID)
    (ordered : result.stickersOrder = some order) :
    stickers.Pairwise fun first second =>
      first.id ∈ order → second.id ∈ order → order.idxOf first.id ≤ order.idxOf second.id := by
  unfold sortedStickers at returned
  rw [ordered] at returned
  cases order with
  | nil =>
      apply List.pairwise_of_forall
      intro first second impossible
      cases impossible
  | cons head rest =>
      refine (sortByKey_pairwise returned).imp ?_
      intro first second below firstListed secondListed
      exact below _ _ (indexIn_of_mem firstListed) (indexIn_of_mem secondListed)

theorem sortedStickers_of_unordered
    (unordered : result.stickersOrder = none ∨ result.stickersOrder = some []) :
    result.sortedStickers = .ok result.stickers := by
  unfold sortedStickers
  rcases unordered with missing | empty
  · rw [missing]
  · rw [empty]

end BotXAPIGetStickerPackResult

theorem BotXAPIGetStickerPackResponsePayload.toDomain_describes
    (payload : BotXAPIGetStickerPackResponsePayload) (pack : StickerPack)
    (returned : toDomain payload = .ok pack) : payload.result.DescribesPack pack := by
  obtain ⟨stickers, sorted, returned⟩ := (Result.bind_eq_ok _ _ _).mp returned
  cases returned
  refine ⟨⟨rfl, rfl, rfl⟩, ?_, ?_, ?_, ?_⟩
  · exact (payload.result.sortedStickers_perm sorted).map _
  · intro sticker member
    obtain ⟨_, _, rfl⟩ := List.mem_map.mp member
    rfl
  · intro order ordered
    rw [List.pairwise_map]
    exact payload.result.sortedStickers_pairwise sorted order ordered
  · intro unordered
    rw [payload.result.sortedStickers_of_unordered unordered] at sorted
    cases sorted
    rfl

theorem BotXAPIGetStickerPackResponsePayload.toDomain_returns_iff
    (payload : BotXAPIGetStickerPackResponsePayload) :
    Returns (toDomain payload) ↔ payload.result.OrderComplete := by
  unfold toDomain
  rw [returns_bind_iff_of_next _ _ (fun _ => returns_pure _)]
  exact payload.result.sortedStickers_returns_iff

/-- A response is converted to the pack it describes exactly if its list of ids misses no
sticker or is not there. -/
theorem stickerPack_described_iff (payload : BotXAPIGetStickerPackResponsePayload) :
    (∃ pack, BotXAPIGetStickerPackResponsePayload.toDomain payload = .ok pack ∧
        payload.result.DescribesPack pack) ↔ payload.result.OrderComplete := by
  rw [← payload.toDomain_returns_iff]
  constructor
  · intro described
    obtain ⟨pack, returned, _⟩ := described
    exact ⟨pack, returned⟩
  · intro returned
    obtain ⟨pack, returned⟩ := returned
    exact ⟨pack, returned, payload.toDomain_describes pack returned⟩

/-- A response whose list names another sticker than the one that is in the pack. -/
def demoPackResponse : Json :=
  .obj [("status", .str "ok"),
    ("result", .obj [("id", .str "26080153-a57d-5a8c-af0e-fdecee3c4435"), ("name", .str "Pack"),
      ("public", .bool false),
      ("stickers_order", .arr [.str "75bb24c9-7c08-5db0-ae3e-085929e80c54"]),
      ("stickers", .arr [.obj [("id", .str "a998f599-d7ac-5e04-9fdb-2d98224ce4ff"),
        ("emoji", .str "!"), ("link", .str "https://cts.example.com/sticker.png")]])])]

theorem unlistedSticker_raises :
    ∃ payload : BotXAPIGetStickerPackResponsePayload,
      (okPayload (BotXAPIGetStickerPackResult.check demoPython) demoPackResponse :
        Validated PyError _) = .valid payload ∧
      ¬ ∃ pack, BotXAPIGetStickerPackResponsePayload.toDomain payload = .ok pack := by
  refine ⟨_, rfl, ?_⟩
  intro returned
  rcases (BotXAPIGetStickerPackResponsePayload.toDomain_returns_iff _).mp returned with
    missing | empty | ⟨order, ordered, listed⟩
  · cases missing
  · cases empty
  · cases ordered
    exact absurd (listed _ List.mem_cons_self) (by decide +kernel)

end Pybotx
