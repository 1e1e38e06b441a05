import Mathlib.Data.List.TakeWhile
import Mathlib.Data.String.Basic

/-! The parts of the text of a url, and which of them what follows may change. -/
namespace Library

structure UrlParts where
  scheme : String
  host : String
  port : Option String
  rest : String
  deriving DecidableEq, Repr

namespace UrlParts

/-- The characters that end the authority of a url, and separate what follows it. -/
def delimiters : List Char := ['/','?','#']

def authority (remaining : List Char) : List Char := remaining.takeWhile (fun c => !delimiters.contains c)

/-- The scheme ends before `://`, the authority before the first delimiter after it. -/
def ofText (text : String) : Option UrlParts :=
  match text.toList.dropWhile (· != ':') with
  | ':':: '/':: '/'::remaining => some {
    scheme := .ofList (text.toList.takeWhile (· != ':'))
    host := .ofList ((authority remaining).takeWhile (· != ':'))
    port := ((authority remaining).dropWhile (· != ':')).tail?.map String.ofList
    rest := .ofList (remaining.dropWhile (fun c => !delimiters.contains c))}
  | _ => none

example : ofText "https://localhost:8545/v1?key" = some ⟨"https","localhost",some "8545","/v1?key"⟩ := by decide

private theorem takeWhile_append_of_drop {α : Type} {keep : α → Bool} {front : List α}
    (ends : front.dropWhile keep ≠ []) (back : List α) :
    (front ++ back).takeWhile keep = front.takeWhile keep ∧
      (front ++ back).dropWhile keep = front.dropWhile keep ++ back := by
  induction front with
  | nil => exact absurd rfl ends
  | cons c front ih =>
    by_cases passed : keep c = true
    · rw [List.dropWhile_cons_of_pos passed] at ends
      obtain ⟨taken,dropped⟩ := ih ends
      simp [passed,taken,dropped]
    · simp [passed]

/-- What is appended behind a delimiter belongs to the rest. -/
theorem ofText_append {text : String} {url : UrlParts} (parsed : ofText text = some url) (behind : url.rest ≠ "")
    (appended : String) : ofText (text ++ appended) = some {url with rest := url.rest ++ appended} := by
  unfold ofText at parsed
  split at parsed
  · rename_i remaining schemed
    obtain rfl := Option.some.inj parsed
    have ends : remaining.dropWhile (fun c => !delimiters.contains c) ≠ [] :=
      fun empty => behind (congrArg String.ofList empty)
    obtain ⟨scheme,split⟩ := takeWhile_append_of_drop (by rw [schemed]; exact List.cons_ne_nil _ _) appended.toList
    obtain ⟨within,rest⟩ := takeWhile_append_of_drop ends appended.toList
    have same : authority (remaining ++ appended.toList) = authority remaining := within
    rw [ofText,String.toList_append,scheme,split,schemed]
    simp only [List.cons_append,same,rest,String.ofList_append,String.ofList_toList]
  · cases parsed

theorem ofText_https {host : String} (plain : ∀ c ∈ host.toList, c ∉ delimiters ∧ c ≠ ':') (path : String) :
    ofText ("https://" ++ host ++ "/" ++ path) = some ⟨"https",host,none,"/" ++ path⟩ := by
  have chars : ("https://" ++ host ++ "/" ++ path).toList =
      'h':: 't':: 't':: 'p':: 's':: ':':: '/':: '/'::(host.toList ++ '/'::path.toList) := by simp
  have kept : ∀ c ∈ host.toList, (!delimiters.contains c) = true := fun c inside => by simpa using (plain c inside).1
  have named : authority (host.toList ++ '/'::path.toList) = host.toList := by
    rw [authority,List.takeWhile_append_of_pos kept]
    exact List.append_nil _
  have rest : (host.toList ++ '/'::path.toList).dropWhile (fun c => !delimiters.contains c) = '/'::path.toList :=
    List.dropWhile_append_of_pos kept
  have colonless : ∀ c ∈ host.toList, (c != ':') = true := fun c inside => by simpa using (plain c inside).2
  have whole : host.toList.takeWhile (· != ':') = host.toList := List.takeWhile_eq_self_iff.mpr colonless
  have portless : host.toList.dropWhile (· != ':') = [] := List.dropWhile_eq_nil_iff.mpr colonless
  have front : ('/'::path.toList) = ("/" ++ path).toList := by simp
  have parsed : ofText ("https://" ++ host ++ "/" ++ path) = some ⟨"https",.ofList host.toList,none,
      .ofList ('/'::path.toList)⟩ := by
    unfold ofText
    rw [chars]
    change some _ = some _
    rw [named,rest,whole,portless]
    rfl
  rw [parsed,front,String.ofList_toList,String.ofList_toList]

end UrlParts
end Library
