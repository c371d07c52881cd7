import Sgate.Connection.Operations
import Mathlib.Data.List.TakeWhile

/-! # Hosts of rewritten addresses

`SetRemoteHost` splices the address of the real client into the textual address of a connection.
`hostOf_append_iff` says for which hosts the same one is computed from that text again. -/

namespace Sgate

open List

/-- `netutil.Host`: the host part of an address, or the whole text if it has none. -/
def hostOf (addr : String) : String :=
  match splitHostPort addr with
  | some (host, _) => host
  | none => addr

/-- A text without the characters that delimit hosts and ports. -/
def PlainText (s : String) : Prop := ':' ∉ s.toList ∧ '[' ∉ s.toList ∧ ']' ∉ s.toList
  deriving Decidable

/-! ## Splitting a text at its last colon -/

section

variable {s host port : List Char}

theorem takeWhile_reverse_append (hport : ':' ∉ port) :
    ((host ++ ':' :: port).reverse.takeWhile (· ≠ ':')).reverse = port := by
  rw [reverse_append, reverse_cons, append_assoc, takeWhile_append_of_pos (by
      intro ch hch
      rw [mem_reverse] at hch
      exact decide_eq_true (fun h : ch = ':' => hport (h ▸ hch)))]
  simp

theorem colon_notMem_port {last : List Char} (hlast : last <+: (host ++ ':' :: port).reverse)
    (hcolon : ':' ∉ last)
    (h : (host ++ ':' :: port).take ((host ++ ':' :: port).length - last.length - 1) = host) :
    ':' ∉ port := by
  have hle := hlast.length_le
  -- the colon is in the text, so what follows the last one is shorter than the text
  have hshorter : last.length ≠ (host ++ ':' :: port).reverse.length := by
    intro heq
    apply hcolon
    rw [hlast.eq_of_length heq]
    simp
  have hlength : last.length = port.length := by
    have hlen := congrArg length h
    simp only [length_take, length_reverse, length_append, length_cons] at *
    omega
  have hport : last = port.reverse := by
    have hsplit : (host ++ ':' :: port).reverse = port.reverse ++ (':' :: host.reverse) := by simp
    rw [hsplit] at hlast
    apply (prefix_of_prefix_length_le hlast (prefix_append _ _) _).eq_of_length
    · rw [hlength, length_reverse]
    · rw [hlength, length_reverse]
  intro hmem
  apply hcolon
  rw [hport]
  exact mem_reverse.mpr hmem

end

/-! ## The host of a spliced address -/

section

variable {host port : String}

theorem toList_splice : (host ++ ":" ++ port).toList = host.toList ++ ':' :: port.toList := by
  simp

theorem splitHostPort_append (hhost : PlainText host) (hport : PlainText port) :
    splitHostPort (host ++ ":" ++ port) = some (host, port) := by
  have hlast : ((host.toList ++ ':' :: port.toList).reverse.takeWhile (· ≠ ':')).reverse =
      port.toList := takeWhile_reverse_append hport.1
  have hopen : '[' ∉ host.toList ++ ':' :: port.toList := by simp [hhost.2.1, hport.2.1]
  have hclose : ']' ∉ host.toList ++ ':' :: port.toList := by simp [hhost.2.2, hport.2.2]
  have hbefore : (host.toList ++ ':' :: port.toList).take
      ((host.toList ++ ':' :: port.toList).length - port.toList.length - 1) = host.toList := by
    rw [length_append, length_cons, show host.toList.length + (port.toList.length + 1) -
      port.toList.length - 1 = host.toList.length by omega, take_left]
  unfold splitHostPort
  simp only [toList_splice, hlast, hbefore]
  rw [if_neg (by simp), if_neg (fun h => hopen (mem_of_head? h)),
    if_neg (by simp only [hhost.1, hopen, hclose, or_self, not_false_eq_true]),
    String.ofList_toList, String.ofList_toList]

theorem plainText_of_splitHostPort {p : String}
    (h : splitHostPort (host ++ ":" ++ port) = some (host, p)) : PlainText host ∧ PlainText port := by
  unfold splitHostPort at h
  simp only [toList_splice] at h
  split at h
  · cases h
  split at h
  · -- an opening bracket in the host would have to stand inside the brackets
    rename_i hbracket
    split at h
    · cases h
    rename_i hwell
    simp only [not_or] at hwell
    have hhost := congrArg String.toList (congrArg Prod.fst (Option.some.inj h))
    simp only [String.toList_ofList] at hhost
    have hopen : '[' ∈ host.toList := by
      cases hlist : host.toList with
      | nil => simp [hlist] at hbracket
      | cons ch rest =>
        rw [hlist] at hbracket
        simp only [cons_append, head?_cons, Option.some.injEq] at hbracket
        simp [hbracket]
    rw [← hhost] at hopen
    exact absurd ((List.takeWhile_prefix _).subset hopen) hwell.2.2.1
  · split at h
    · cases h
    rename_i hwell
    simp only [not_or] at hwell
    obtain ⟨hbefore, hopen, hclose⟩ := hwell
    have hhost := congrArg String.toList (congrArg Prod.fst (Option.some.inj h))
    simp only [String.toList_ofList, length_reverse] at hhost
    simp only [length_reverse, hhost] at hbefore
    have hport := colon_notMem_port (List.takeWhile_prefix _)
      (fun hcolon => by simpa using mem_takeWhile_imp hcolon) hhost
    simp only [mem_append, mem_cons, not_or] at hopen hclose
    exact ⟨⟨hbefore, hopen.1, hclose.1⟩, ⟨hport, hopen.2.2, hclose.2.2⟩⟩

/-- **When the host of a spliced address is the one that was spliced in.** -/
theorem hostOf_append_iff :
    hostOf (host ++ ":" ++ port) = host ↔ PlainText host ∧ PlainText port := by
  constructor
  · intro h
    unfold hostOf at h
    cases hsplit : splitHostPort (host ++ ":" ++ port) with
    | none =>
      rw [hsplit] at h
      have hlength : (host ++ ":" ++ port).toList.length = host.toList.length :=
        congrArg (fun s => s.toList.length) h
      rw [toList_splice, length_append, length_cons] at hlength
      omega
    | some split =>
      obtain ⟨found, p⟩ := split
      rw [hsplit] at h
      obtain rfl : found = host := h
      exact plainText_of_splitHostPort hsplit
  · rintro ⟨hhost, hport⟩
    rw [hostOf, splitHostPort_append hhost hport]

theorem cutPort_append (hhost : ':' ∉ host.toList) : cutPort (host ++ ":" ++ port) = some port := by
  have hdrop : (host.toList ++ ':' :: port.toList).dropWhile (· ≠ ':') = ':' :: port.toList := by
    rw [dropWhile_append_of_pos]
    · simp
    · intro ch hch
      exact decide_eq_true fun h : ch = ':' => hhost (h ▸ hch)
  simp only [cutPort, toList_splice, hdrop, String.ofList_toList]

end

namespace Connection

variable {conn : Connection} {host port : String}

theorem remoteHostOf_of_none (h : conn.remoteHost = none) :
    conn.remoteHostOf = hostOf conn.remoteAddr := by
  cases hsplit : splitHostPort conn.remoteAddr with
  | none | some found => simp only [remoteHostOf, hostOf, h, hsplit]

theorem remoteHostOf_setRemoteHost : (conn.setRemoteHost host).remoteHostOf = host := rfl

theorem remoteAddr_setRemoteHost (h : cutPort conn.remoteAddr = some port) :
    (conn.setRemoteHost host).remoteAddr = host ++ ":" ++ port := by
  have hne : conn.remoteAddr ≠ "" := by
    intro hempty
    have hnone : cutPort "" = none := by decide
    rw [hempty, hnone] at h
    cases h
  simp only [setRemoteHost, if_neg hne, h]

/-- **A replaced host is found again in the address** exactly if neither it nor what follows the first
colon of the old address has a colon or a bracket. -/
theorem hostOf_setRemoteHost_iff (h : cutPort conn.remoteAddr = some port) :
    hostOf (conn.setRemoteHost host).remoteAddr = (conn.setRemoteHost host).remoteHostOf ↔
      PlainText host ∧ PlainText port := by
  rw [remoteAddr_setRemoteHost h, remoteHostOf_setRemoteHost]
  exact hostOf_append_iff

end Connection

end Sgate
