import ArticleMarkdown.Article.Convert
import ArticleMarkdown.Proofs.Asset.Answer
import ArticleMarkdown.Proofs.Markdown.Requests

/-!
# Conversions keep to the contract of their store

A document asks only for what can become a file, so no request of a conversion is refused, and
only a fault of the fetcher can make it fail.
-/

namespace ArticleMarkdown.Article

open Asset

/-- A document makes requests of its own owner only, and all of them can be served. -/
theorem documentRequests_proper (s : Settings) (children : List Node) :
    Request.Proper s.owner (draftDocument s children).requests :=
  fun request member =>
    have asks := draftDocument_madeUnder s children request member
    ⟨asks.owner, asks.proper⟩

section Endings

variable {fetcher : Option Fetcher} {s : Settings} {store : Store} {children : List Node}

/-- Converting a document changes the store as answering its requests does. -/
theorem convertNodes_store :
    (convertNodes fetcher s store children).1 =
      (store.answerAll fetcher (draftDocument s children).requests).1 := by
  rw [convertNodes, complete]
  split
  · next ends => rw [ends]
  · next ends => rw [ends]

/-- Once its requests are answered, a document is filled with the answers. -/
theorem convertNodes_of_answers {paths : List Text}
    (answers : (store.answerAll fetcher (draftDocument s children).requests).2 = .ok paths) :
    (convertNodes fetcher s store children).2 = .ok ((draftDocument s children).fill paths) := by
  rw [convertNodes, complete]
  split
  · next ends =>
    rw [ends] at answers
    cases answers
    rfl
  · next ends =>
    rw [ends] at answers
    cases answers

private theorem convertNodes_of_fault {fault : Asset.Fault}
    (fails : (store.answerAll fetcher (draftDocument s children).requests).2 = .error fault) :
    (convertNodes fetcher s store children).2 = .error (.asset fault) := by
  rw [convertNodes, complete]
  split
  · next ends =>
    rw [ends] at fails
    cases fails
  · next ends =>
    rw [ends] at fails
    cases fails
    rfl

/-- A document that was converted is filled with the answers to its requests. -/
theorem answers_of_convertNodes {after : Store} {markdown : Text}
    (converts : convertNodes fetcher s store children = (after, .ok markdown)) :
    ∃ paths, store.answerAll fetcher (draftDocument s children).requests = (after, .ok paths) ∧
      markdown = (draftDocument s children).fill paths := by
  rw [convertNodes, complete] at converts
  split at converts
  · next paths answers =>
    cases converts
    exact ⟨paths, answers, rfl⟩
  · cases converts

end Endings

/-- A fetcher that reports no fault but that of an image which cannot be fetched. -/
def OnlyUnreachable (fetch : Fetcher) : Prop :=
  ∀ address fault, (fetch address).outcome = .error fault →
    ∃ url attempts reason, fault = .unreachable url attempts reason

/-- A conversion never breaches the contract of its store. When assets stay where they are, it
succeeds without a fetch and leaves the store as it is. Without a fetcher it succeeds. With one it
succeeds if each fetch does, and else ends with exactly the fault that its last fetch gives. So it
never ends with a breach of contract, or without a body, if the fetcher reports only images that
cannot be fetched. It fetches no image twice, so it is all the same whether the fetcher would give
another reply the next time. -/
theorem conversion_keeps_contract (s : Settings) (store : Store) (children : List Node) :
    (s.localizeAssets = false → ∀ fetcher, ∃ markdown,
      convertNodes fetcher s store children = (store, .ok markdown)) ∧
    (∃ markdown, (convertNodes none s store children).2 = .ok markdown) ∧
    ∀ fetch : Fetcher, ∃ asked,
      (convertNodes (some fetch) s store children).1.fetched = store.fetched ++ asked ∧
      (asked.map Url.canonical).Nodup ∧
      ((fetch.BringsAll asked ∧
          ∃ markdown, (convertNodes (some fetch) s store children).2 = .ok markdown) ∨
        ∃ earlier address fault, asked = earlier ++ [address] ∧ fetch.BringsAll earlier ∧
          (fetch address).outcome = .error fault ∧
          (convertNodes (some fetch) s store children).2 = .error (.asset fault)) ∧
      (OnlyUnreachable fetch → ∀ fault,
        (convertNodes (some fetch) s store children).2 = .error fault →
          ∃ address url attempts reason, address ∈ asked ∧
            (fetch address).outcome = .error (.unreachable url attempts reason) ∧
            fault = .asset (.unreachable url attempts reason)) := by
  have proper := documentRequests_proper s children
  refine ⟨fun stays fetcher => ?_, ?_, fun fetch => ?_⟩
  · refine ⟨(draftDocument s children).fill [], ?_⟩
    rw [convertNodes, complete, (draftDocument_madeUnder s children).requests_nil stays]
    rfl
  · obtain ⟨paths, answers⟩ := store.answerAll_none fun request member => (proper request member).2
    exact ⟨_, convertNodes_of_answers answers⟩
  · obtain ⟨asked, asks⟩ := store.answerAll_asks fetch proper
    have ends := asks.ends
    generalize result : (store.answerAll (some fetch) (draftDocument s children).requests).2 = r
      at ends
    refine ⟨asked, ?_, asks.once, ?_, fun only fault fails => ?_⟩
    · rw [convertNodes_store]
      exact asks.fetched
    · cases ends with
      | answers brings => exact .inl ⟨brings, _, convertNodes_of_answers result⟩
      | fault brings fails =>
          exact .inr ⟨_, _, _, rfl, brings, fails, convertNodes_of_fault result⟩
    · cases ends with
      | answers brings =>
          rw [convertNodes_of_answers result] at fails
          cases fails
      | @fault earlier address cause brings gives =>
          rw [convertNodes_of_fault result] at fails
          cases fails
          obtain ⟨url, attempts, reason, rfl⟩ := only address cause gives
          exact ⟨address, url, attempts, reason, List.mem_append_right _ List.mem_cons_self, gives,
            rfl⟩

/-- A fetcher that brings an image of one byte from every address but one, and reports of that one
the mirror which it has asked instead. -/
def fetchesAllBut (lost : Text) : Fetcher := fun address =>
  ⟨0, if address = lost then .error (.unreachable "mirror".toList 1 "gone".toList)
    else .ok ⟨[97], "image/png".toList⟩⟩

private theorem fetchesAllBut_onlyUnreachable (lost : Text) :
    OnlyUnreachable (fetchesAllBut lost) := by
  intro address fault fails
  rw [fetchesAllBut] at fails
  split at fails
  · cases fails
    exact ⟨_, _, _, rfl⟩
  · cases fails

/-- Three images to fetch, and one that holds itself. -/
def threeImages : List Node :=
  let image (address : String) := Node.element .html "img" [⟨.none, "src", address.toList⟩] []
  [image " a.png ", image "data:,", image "b", image "c.png"]

/-- A conversion that stops at the second of three images to be fetched, with the fault that the
fetcher gives; when assets stay where they are, it asks for none. -/
theorem conversion_keeps_contract_threeImages :
    (∃ markdown, convertNodes (some (fetchesAllBut "b".toList)) {} {} threeImages =
      ({}, .ok markdown)) ∧
    (convertNodes (some (fetchesAllBut "b".toList)) { localizeAssets := true } {}
        threeImages).1.fetched = ["a.png".toList, "b".toList] ∧
    (convertNodes (some (fetchesAllBut "b".toList)) { localizeAssets := true } {}
        threeImages).2 = .error (.asset (.unreachable "mirror".toList 1 "gone".toList)) ∧
    ∃ address url attempts reason,
      (fetchesAllBut "b".toList address).outcome = .error (.unreachable url attempts reason) ∧
        Fault.asset (.unreachable "mirror".toList 1 "gone".toList) =
          .asset (.unreachable url attempts reason) := by
  have fails : (convertNodes (some (fetchesAllBut "b".toList)) { localizeAssets := true } {}
      threeImages).2 = .error (.asset (.unreachable "mirror".toList 1 "gone".toList)) := by
    decide +kernel
  obtain ⟨asked, -, -, -, exactly⟩ :=
    (conversion_keeps_contract { localizeAssets := true } {} threeImages).2.2
      (fetchesAllBut "b".toList)
  obtain ⟨address, url, attempts, reason, -, gives, same⟩ :=
    exactly (fetchesAllBut_onlyUnreachable _) _ fails
  exact ⟨(conversion_keeps_contract {} {} threeImages).1 rfl _, by decide +kernel, fails, address,
    url, attempts, reason, gives, same⟩

end ArticleMarkdown.Article
