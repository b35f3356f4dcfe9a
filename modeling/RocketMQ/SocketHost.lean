import RocketMQ.NetAddr

namespace RocketMQ

/-!
# The texts a socket address parses from

`str::parse::<SocketAddr>` reads an IPv4 address or a bracketed IPv6 address, then a colon and
a port.  This module says exactly which hosts it accepts before `:port`: a text that
`Ipv4Addr::from_str` accepts, or `[`, a text that `Ipv6Addr::from_str` accepts, an optional
`%` and scope id, and `]`.

The proofs rest on one frame property of the readers: appending a text that opens with a
character a reader cannot take changes neither whether the reader succeeds nor what it reads,
only the unread rest.  A digit loop that ran out of input and one that met such a character
stop alike, and so does every reader built from them.
-/

namespace AddrParser

/-- The digit loop reads the same with more text after the input, when that text does not
open with a digit. -/
theorem readDigits_append_map {bits radix : Nat} {maxDigits : Option Nat}
    (result : Unsigned bits) (count : Nat) (input : List Char) {more : List Char}
    (stops : ∀ c ∈ more.head?, toDigit radix c = none) :
    readDigits bits radix maxDigits result count (input ++ more) =
      (readDigits bits radix maxDigits result count input).map
        fun (value, total, rest) => (value, total, rest ++ more) := by
  induction input generalizing result count with
  | nil =>
      exact readDigits_stop result count stops
  | cons c tail inductionHypothesis =>
      simp only [List.cons_append, readDigits]
      split
      · rfl
      · split_ifs
        · exact inductionHypothesis _ _
        all_goals rfl

/-- `read_number` reads the same with more text after the input, when that text does not
open with a digit. -/
theorem readNumber_append_map {bits radix : Nat} {maxDigits : Option Nat}
    {allowZeroPrefix : Bool} (input : List Char) {more : List Char}
    (stops : ∀ c ∈ more.head?, toDigit radix c = none) :
    readNumber bits radix maxDigits allowZeroPrefix (input ++ more) =
      (readNumber bits radix maxDigits allowZeroPrefix input).map
        fun (value, rest) => (value, rest ++ more) := by
  cases input with
  | nil =>
      simp [readNumber, readDigits_stop _ _ stops, readDigits]
  | cons c tail =>
      unfold readNumber
      rw [readDigits_append_map _ _ _ stops]
      cases readDigits bits radix maxDigits ⟨0, Nat.two_pow_pos bits⟩ 0 (c :: tail) with
      | none =>
          rfl
      | some read =>
          obtain ⟨value, count, rest⟩ := read
          simp only [Option.map_some', List.cons_append, List.head?_cons]
          split_ifs <;> rfl

/-- `read_separator` reads the same with more text after the input, when its item does and
that text does not open with the separator. -/
theorem readSeparator_append_map {separator : Char} (index : Nat)
    {inner : List Char → Option (α × List Char)} {more : List Char}
    (innerAppend : ∀ input, inner (input ++ more) =
      (inner input).map fun (value, rest) => (value, rest ++ more))
    (notSeparator : more.head? ≠ some separator) (input : List Char) :
    readSeparator separator index inner (input ++ more) =
      (readSeparator separator index inner input).map
        fun (value, rest) => (value, rest ++ more) := by
  unfold readSeparator
  split_ifs
  · exact innerAppend input
  · cases input with
    | nil =>
        cases more with
        | nil =>
            rfl
        | cons c rest =>
            simp only [List.head?_cons, ne_eq, Option.some.injEq] at notSeparator
            simp [notSeparator]
    | cons c tail =>
        simp only [List.cons_append]
        split_ifs
        · exact innerAppend tail
        · rfl

/-- `read_ipv4_addr` reads the same with more text after the input, when that text opens
with neither a decimal digit nor a dot. -/
theorem readIpv4Addr_append_map (input : List Char) {more : List Char}
    (notDigit : ∀ c ∈ more.head?, toDigit 10 c = none) (notDot : more.head? ≠ some '.') :
    readIpv4Addr (input ++ more) =
      (readIpv4Addr input).map fun (ip, rest) => (ip, rest ++ more) := by
  have octet : ∀ index input, readSeparator '.' index readOctet (input ++ more) =
      (readSeparator '.' index readOctet input).map
        fun (value, rest) => (value, rest ++ more) :=
    fun index => readSeparator_append_map index (fun input => readNumber_append_map input notDigit)
      notDot
  simp only [readIpv4Addr, Option.bind_eq_bind, octet, Option.bind_map, Option.map_bind,
    Function.comp_def, Option.pure_def, Option.map_some']

/-- A decimal digit is a hexadecimal digit. -/
theorem toDigit_sixteen_of_ten {c : Char} (decimal : (toDigit 10 c).isSome) :
    (toDigit 16 c).isSome := by
  simp only [toDigit] at decimal ⊢
  split_ifs at decimal ⊢ <;>
    first | rfl | (simp only [Option.isSome_none, Bool.false_eq_true] at decimal) | omega

/-- The text after an IPv6 address opens with no character its readers take: no hexadecimal
digit, no colon and no dot. -/
def StopsIpv6 (more : List Char) : Prop :=
  ∀ c ∈ more.head?, toDigit 16 c = none ∧ c ≠ ':' ∧ c ≠ '.'

namespace StopsIpv6

variable {more : List Char} (stops : StopsIpv6 more)
include stops

theorem notHex : ∀ c ∈ more.head?, toDigit 16 c = none :=
  fun c member => (stops c member).1

theorem notDecimal : ∀ c ∈ more.head?, toDigit 10 c = none := by
  intro c member
  cases decimal : toDigit 10 c with
  | none =>
      rfl
  | some d =>
      have hex := @toDigit_sixteen_of_ten c (by rw [decimal]; rfl)
      rw [(stops c member).1] at hex
      cases hex

theorem notColon : more.head? ≠ some ':' :=
  fun colon => (stops ':' colon).2.1 rfl

theorem notDot : more.head? ≠ some '.' :=
  fun dot => (stops '.' dot).2.2 rfl

end StopsIpv6

/-- `read_groups` reads the same groups with more text after the input, when that text opens
with no character an IPv6 reader takes. -/
theorem readGroups_append (index remaining : Nat) (input : List Char) {more : List Char}
    (stops : StopsIpv6 more) :
    readGroups index remaining (input ++ more) =
      ((readGroups index remaining input).1, (readGroups index remaining input).2.1,
        (readGroups index remaining input).2.2 ++ more) := by
  induction remaining generalizing index input with
  | zero =>
      rfl
  | succ remaining inductionHypothesis =>
      have embedded : (if 0 < remaining then readSeparator ':' index readIpv4Addr (input ++ more)
          else none) = (if 0 < remaining then readSeparator ':' index readIpv4Addr input
            else none).map fun (value, rest) => (value, rest ++ more) := by
        split_ifs
        · exact readSeparator_append_map index
            (fun input => readIpv4Addr_append_map input stops.notDecimal stops.notDot)
            stops.notColon input
        · rfl
      have group : readSeparator ':' index (readNumber 16 16 (some 4) true) (input ++ more) =
          (readSeparator ':' index (readNumber 16 16 (some 4) true) input).map
            fun (value, rest) => (value, rest ++ more) :=
        readSeparator_append_map index (fun input => readNumber_append_map input stops.notHex)
          stops.notColon input
      simp only [readGroups, embedded, group]
      cases (if 0 < remaining then readSeparator ':' index readIpv4Addr input else none) with
      | some read =>
          rfl
      | none =>
          cases readSeparator ':' index (readNumber 16 16 (some 4) true) input with
          | none =>
              rfl
          | some read =>
              simp only [Option.map_none', Option.map_some', inductionHypothesis]

/-- `read_ipv6_addr` reads the same address with more text after the input, when that text
opens with no character an IPv6 reader takes. -/
theorem readIpv6Addr_append_map (input : List Char) {more : List Char}
    (stops : StopsIpv6 more) :
    readIpv6Addr (input ++ more) =
      (readIpv6Addr input).map fun (ip, rest) => (ip, rest ++ more) := by
  unfold readIpv6Addr
  simp only [readGroups_append 0 8 input stops]
  split_ifs
  · rfl
  · rfl
  · have noColon := stops.notColon
    split
    · rename_i tail shape
      split
      · rename_i tail' shape'
        rw [shape', List.cons_append, List.cons_append, List.cons.injEq, List.cons.injEq]
          at shape
        rw [← shape.2.2]
        simp [readGroups_append 0 _ tail' stops]
      · rename_i notColons
        exfalso
        generalize (readGroups 0 8 input).2.2 = rest at shape notColons
        rcases rest with _ | ⟨c, _ | ⟨d, rest⟩⟩
        · simp_all
        · rcases more with _ | ⟨e, more⟩ <;> simp_all
        · simp only [List.cons_append, List.cons.injEq] at shape
          exact notColons rest (by rw [shape.1, shape.2.1])
    · rename_i notColons
      split
      · rename_i tail shape
        exact absurd (by rw [shape]; rfl) (notColons (tail ++ more))
      · rfl

/-! ## What the IPv6 readers consume -/

/-- A character an IPv6 reader takes: a hexadecimal digit, a colon or a dot. -/
def Ipv6Char (c : Char) : Prop :=
  (toDigit 16 c).isSome ∨ c = ':' ∨ c = '.'

/-- `read_groups` consumes IPv6 characters. -/
theorem readGroups_consumes (index remaining : Nat) (input : List Char) :
    Consumed Ipv6Char input (readGroups index remaining input).2.2 := by
  have colon : Ipv6Char ':' := .inr (.inl rfl)
  induction remaining generalizing index input with
  | zero =>
      exact .refl _
  | succ remaining inductionHypothesis =>
      simp only [readGroups]
      split
      · rename_i embedded
        split at embedded
        · exact readSeparator_consumes colon (fun read => (readIpv4Addr_consumes read).mono
            fun _ => Or.rec (fun dot => .inr (.inr dot)) (fun digit =>
              .inl (toDigit_sixteen_of_ten digit))) embedded
        · cases embedded
      · split
        · exact .refl _
        · rename_i groupRead
          exact (readSeparator_consumes colon (fun read => (readNumber_consumes read).mono
            fun _ => .inl) groupRead).trans (inductionHypothesis _ _)

/-- `read_ipv6_addr` consumes IPv6 characters. -/
theorem readIpv6Addr_consumes {input : List Char} {ip : Ipv6Addr} {rest : List Char}
    (read : readIpv6Addr input = some (ip, rest)) : Consumed Ipv6Char input rest := by
  have colon : Ipv6Char ':' := .inr (.inl rfl)
  have front := readGroups_consumes 0 8 input
  unfold readIpv6Addr at read
  dsimp only at read
  split_ifs at read
  · cases read
    exact front
  · split at read
    · rename_i tail frontRest
      cases read
      rw [frontRest] at front
      exact front.trans (.cons colon (.cons colon (readGroups_consumes 0 _ tail)))
    · cases read

/-! ## Lengths -/

/-- The digit loop consumes one character per digit it counts, and counts up to its limit. -/
theorem readDigits_length {bits radix limit : Nat} {result : Unsigned bits} {count : Nat}
    {input : List Char} {value : Unsigned bits} {total : Nat} {rest : List Char}
    (read : readDigits bits radix (some limit) result count input = some (value, total, rest))
    (start : count ≤ limit) :
    input.length + count = rest.length + total ∧ total ≤ limit := by
  induction input generalizing result count with
  | nil =>
      cases read
      exact ⟨rfl, start⟩
  | cons c tail inductionHypothesis =>
      simp only [readDigits] at read
      split at read
      · cases read
        exact ⟨rfl, start⟩
      · split_ifs at read with fits notTooMany
        simp only [Option.all_some, decide_eq_true_eq] at notTooMany
        have := inductionHypothesis read notTooMany
        simp only [List.length_cons]
        omega

/-- An octet takes at most three characters. -/
theorem readOctet_length {input : List Char} {octet : Unsigned 8} {rest : List Char}
    (read : readOctet input = some (octet, rest)) : input.length ≤ rest.length + 3 := by
  unfold readOctet readNumber at read
  split at read
  · cases read
  · rename_i loop
    split_ifs at read
    cases read
    have := readDigits_length loop (by norm_num)
    omega

/-- An octet with its dot takes at most four characters. -/
theorem readSeparator_octet_length {index : Nat} {input : List Char} {octet : Unsigned 8}
    {rest : List Char} (read : readSeparator '.' index readOctet input = some (octet, rest)) :
    input.length ≤ rest.length + 4 := by
  unfold readSeparator at read
  split_ifs at read
  · have := readOctet_length read
    omega
  · split at read
    · split_ifs at read
      have := readOctet_length read
      simp only [List.length_cons]
      omega
    · cases read

/-- An IPv4 address takes at most fifteen characters. -/
theorem readIpv4Addr_length {input : List Char} {ip : Ipv4Addr} {rest : List Char}
    (read : readIpv4Addr input = some (ip, rest)) : input.length ≤ rest.length + 15 := by
  obtain ⟨first, second, third, a, b, c, d⟩ := readIpv4Addr_eq_some read
  have := readOctet_length (show readOctet input = some (ip.a, first) from a)
  have := readSeparator_octet_length b
  have := readSeparator_octet_length c
  have := readSeparator_octet_length d
  omega

/-! ## The port -/

/-- After an address, the port reads the whole rest only right after the address: text between
them would leave the colon before the port unread. -/
theorem readPort_append_colon {tail digits : List Char} {port : Unsigned 16}
    (read : readPort (tail ++ ':' :: digits) = some (port, [])) : tail = [] := by
  obtain ⟨rest, shape, ⟨consumed, whole, allDigits⟩⟩ := readPort_eq_some read
  cases tail with
  | nil =>
      rfl
  | cons c tail =>
      simp only [List.cons_append, List.cons.injEq] at shape
      rw [← shape.2, List.append_nil] at whole
      have colonDigit := allDigits ':' (by rw [← whole]; simp)
      simp at colonDigit

/-- `read_scope_id` reads a percent sign and a number. -/
theorem readScopeId_eq_some {input : List Char} {scopeId : Unsigned 32} {rest : List Char}
    (read : readScopeId input = some (scopeId, rest)) :
    ∃ digits, input = '%' :: digits ∧ readNumber 32 10 none true digits = some (scopeId, rest) := by
  unfold readScopeId at read
  split at read
  · exact ⟨_, rfl, read⟩
  · cases read

/-! ## Splitting a host and port text -/

@[simp] theorem toDigit_closeBracket (radix : Nat) : toDigit radix ']' = none :=
  toDigit_eq_none (by decide) (by decide) (by decide) radix

@[simp] theorem toDigit_percent (radix : Nat) : toDigit radix '%' = none :=
  toDigit_eq_none (by decide) (by decide) (by decide) radix

/-- A closing bracket ends every IPv6 reader. -/
theorem stopsIpv6_closeBracket (rest : List Char) : StopsIpv6 (']' :: rest) := by
  rintro c ⟨⟩
  exact ⟨toDigit_closeBracket 16, by decide, by decide⟩

/-- A percent sign ends every IPv6 reader. -/
theorem stopsIpv6_percent (rest : List Char) : StopsIpv6 ('%' :: rest) := by
  rintro c ⟨⟩
  exact ⟨toDigit_percent 16, by decide, by decide⟩

/-- An IPv6 address read up to text no reader takes is the address of what comes before. -/
theorem readIpv6Addr_of_append {address more : List Char} {ip : Ipv6Addr}
    (stops : StopsIpv6 more) (read : readIpv6Addr (address ++ more) = some (ip, more)) :
    readIpv6Addr address = some (ip, []) := by
  rw [readIpv6Addr_append_map address stops, Option.map_eq_some'] at read
  obtain ⟨⟨_, rest⟩, addressRead, same⟩ := read
  simp only [Prod.mk.injEq, List.append_left_eq_self] at same
  rwa [same.1, same.2] at addressRead

/-- A number read up to a character that is no digit is the number of what comes before. -/
theorem readNumber_of_append {bits radix : Nat} {maxDigits : Option Nat}
    {allowZeroPrefix : Bool} {digits more : List Char} {value : Unsigned bits}
    (stops : ∀ c ∈ more.head?, toDigit radix c = none)
    (read : readNumber bits radix maxDigits allowZeroPrefix (digits ++ more) = some (value, more)) :
    readNumber bits radix maxDigits allowZeroPrefix digits = some (value, []) := by
  rw [readNumber_append_map digits stops, Option.map_eq_some'] at read
  obtain ⟨⟨_, rest⟩, digitsRead, same⟩ := read
  simp only [Prod.mk.injEq, List.append_left_eq_self] at same
  rwa [same.1, same.2] at digitsRead

/-- A read of `host ++ port` that stopped at a character the port lacks stopped inside the
host, right before that character. -/
theorem split_of_cons {host port consumed rest : List Char} {c : Char}
    (whole : host ++ port = consumed ++ c :: rest) (notInPort : c ∉ port) :
    ∃ tail, host = consumed ++ c :: tail ∧ rest = tail ++ port := by
  rcases List.append_eq_append_iff.mp whole with ⟨_, -, portShape⟩ | ⟨tail, hostShape, restShape⟩
  · exact absurd (portShape ▸ List.mem_append_right _ (List.mem_cons_self c rest)) notInPort
  · cases tail with
    | nil =>
        exact absurd (by rw [← List.nil_append port, ← restShape]; exact List.mem_cons_self c rest)
          notInPort
    | cons d tail =>
        simp only [List.cons_append, List.cons.injEq] at restShape
        obtain ⟨rfl, rfl⟩ := restShape
        exact ⟨tail, hostShape, rfl⟩

/-- An IPv4 socket address read from a host, a colon and a port: the host is its address and
the rest is its port. -/
theorem readSocketAddrV4_hostPort {host digits : List Char} {addr : SocketAddrV4}
    (read : readSocketAddrV4 (host ++ ':' :: digits) = some (addr, [])) :
    readIpv4Addr host = some (addr.ip, []) ∧ readPort (':' :: digits) = some (addr.port, []) := by
  simp only [readSocketAddrV4, Option.bind_eq_bind, Option.bind_eq_some, Option.pure_def,
    Option.some.injEq, Prod.exists] at read
  obtain ⟨ip, middle, ipRead, port, last, portRead, rfl, rfl⟩ := read
  rw [readIpv4Addr_append_map host (by simp) (by simp), Option.map_eq_some'] at ipRead
  obtain ⟨⟨_, tail⟩, hostRead, same⟩ := ipRead
  simp only [Prod.mk.injEq] at same
  obtain ⟨rfl, rfl⟩ := same
  obtain rfl := readPort_append_colon portRead
  exact ⟨hostRead, portRead⟩

/-- An IPv6 socket address read from a host, a colon and a port without brackets or percent
signs: the host is its address in brackets, followed by no scope and a scope id of zero, or by
the scope id it has; the flow label is zero and the rest is its port. -/
theorem readSocketAddrV6_hostPort {host digits : List Char} {addr : SocketAddrV6}
    (portText : ∀ c ∈ digits, c ≠ ']' ∧ c ≠ '%')
    (read : readSocketAddrV6 (host ++ ':' :: digits) = some (addr, [])) :
    ∃ address scope, host = '[' :: address ++ scope ++ [']'] ∧
      readIpv6Addr address = some (addr.ip, []) ∧
      ((scope = [] ∧ addr.scopeId = ⟨0, by norm_num⟩) ∨
        readScopeId scope = some (addr.scopeId, [])) ∧
      addr.flowinfo = ⟨0, by norm_num⟩ ∧ readPort (':' :: digits) = some (addr.port, []) := by
  have notInPort : ∀ c, c = ']' ∨ c = '%' → c ∉ ':' :: digits := by
    rintro c special (_ | ⟨_, member⟩)
    · rcases special with colon | colon <;> exact absurd colon (by decide)
    · exact special.elim (portText c member).1 (portText c member).2
  rcases host with _ | ⟨first, host⟩
  · cases read
  unfold readSocketAddrV6 at read
  split at read
  · rename_i input shape
    simp only [List.cons_append, List.cons.injEq] at shape
    obtain ⟨rfl, rfl⟩ := shape
    simp only [Option.bind_eq_bind, Option.bind_eq_some, Prod.exists] at read
    obtain ⟨ip, afterIp, ipRead, read⟩ := read
    obtain ⟨consumed, whole, -⟩ := readIpv6Addr_consumes ipRead
    cases scopeRead : readScopeId afterIp with
    | none =>
        simp only [scopeIdOrZero, scopeRead, Option.getD_none] at read
        split at read
        · simp only [Option.bind_eq_some, Option.pure_def, Option.some.injEq, Prod.exists]
            at read
          obtain ⟨port, last, portRead, rfl, rfl⟩ := read
          obtain ⟨t3, rfl, rfl⟩ := split_of_cons whole (notInPort ']' (.inl rfl))
          obtain rfl := readPort_append_colon portRead
          have addressRead : readIpv6Addr (consumed ++ ']' :: ':' :: digits) =
              some (ip, ']' :: ':' :: digits) := by
            simpa using ipRead
          exact ⟨consumed, [], by simp,
            readIpv6Addr_of_append (stopsIpv6_closeBracket _) addressRead, .inl ⟨rfl, rfl⟩, rfl,
            portRead⟩
        · cases read
    | some pair =>
        obtain ⟨scopeId, r2⟩ := pair
        obtain ⟨s1, afterShape, numberRead⟩ := readScopeId_eq_some scopeRead
        simp only [scopeIdOrZero, scopeRead, Option.getD_some] at read
        split at read
        · simp only [Option.bind_eq_some, Option.pure_def, Option.some.injEq, Prod.exists]
            at read
          obtain ⟨port, last, portRead, rfl, rfl⟩ := read
          rw [afterShape] at whole ipRead
          obtain ⟨tt, rfl, rfl⟩ := split_of_cons whole (notInPort '%' (.inr rfl))
          obtain ⟨d, numberWhole, -⟩ := readNumber_consumes numberRead
          obtain ⟨t3, rfl, rfl⟩ := split_of_cons numberWhole (notInPort ']' (.inl rfl))
          obtain rfl := readPort_append_colon portRead
          have scopeDigits : readNumber 32 10 none true (d ++ ']' :: ':' :: digits) =
              some (scopeId, ']' :: ':' :: digits) := by
            simpa using numberRead
          have addressRead : readIpv6Addr (consumed ++ '%' :: (d ++ ']' :: ':' :: digits)) =
              some (ip, '%' :: (d ++ ']' :: ':' :: digits)) := by
            simpa using ipRead
          exact ⟨consumed, '%' :: d, by simp,
            readIpv6Addr_of_append (stopsIpv6_percent _) addressRead,
            .inr (readNumber_of_append (by simp) scopeDigits), rfl, portRead⟩
        · cases read
  · cases read

/-- An IPv6 address in brackets, with no scope and a scope id of zero or with the scope id it
has, reads up to a port, with a flow label of zero. -/
theorem readSocketAddrV6_bracketed {address scope more : List Char} {ip : Ipv6Addr}
    {scopeId : Unsigned 32} (ipRead : readIpv6Addr address = some (ip, []))
    (scopeText : (scope = [] ∧ scopeId = ⟨0, by norm_num⟩) ∨
      readScopeId scope = some (scopeId, [])) :
    readSocketAddrV6 ('[' :: address ++ scope ++ ']' :: more) =
      (readPort more).map fun (port, rest) => (⟨ip, port, ⟨0, by norm_num⟩, scopeId⟩, rest) := by
  have stops : StopsIpv6 (scope ++ ']' :: more) := by
    rcases scopeText with ⟨rfl, -⟩ | scopeRead
    · exact stopsIpv6_closeBracket more
    · obtain ⟨digits, rfl, -⟩ := readScopeId_eq_some scopeRead
      exact stopsIpv6_percent _
  simp only [readSocketAddrV6, List.cons_append, List.append_assoc, Option.bind_eq_bind,
    readIpv6Addr_append_map address stops, ipRead, Option.map_some', Option.some_bind,
    List.nil_append]
  rcases scopeText with ⟨rfl, rfl⟩ | scopeRead
  · have noScope : scopeIdOrZero (']' :: more) = (⟨0, by norm_num⟩, ']' :: more) := by
      simp [scopeIdOrZero, readScopeId]
    simp only [List.nil_append, noScope]
    cases readPort more <;> rfl
  · obtain ⟨digits, rfl, numberRead⟩ := readScopeId_eq_some scopeRead
    have bracketStops : ∀ c ∈ (']' :: more).head?, toDigit 10 c = none := by simp
    simp only [List.cons_append, scopeIdOrZero, readScopeId,
      readNumber_append_map digits bracketStops, numberRead, Option.map_some', Option.getD_some,
      List.nil_append]
    cases readPort more <;> rfl

/-- No IPv4 address opens with a bracket. -/
theorem readSocketAddrV4_bracket (tail : List Char) : readSocketAddrV4 ('[' :: tail) = none := by
  simp [readSocketAddrV4, readIpv4Addr_of_head (toDigit_openBracket 10)]

/-- The socket reader reads a bracketed IPv6 host and a colon and a printed number that fits in
`u16` as that address and port. -/
theorem readSocketAddr_bracketed {address scope : List Char} {ip : Ipv6Addr}
    {scopeId : Unsigned 32} {n : Nat} (ipRead : readIpv6Addr address = some (ip, []))
    (scopeText : (scope = [] ∧ scopeId = ⟨0, by norm_num⟩) ∨
      readScopeId scope = some (scopeId, []))
    (fits : n < 2 ^ 16) :
    readSocketAddr ('[' :: address ++ scope ++ [']'] ++ ':' :: decimalDigits n) =
      some (.v6 ⟨ip, ⟨n, fits⟩, ⟨0, by norm_num⟩, scopeId⟩, []) := by
  have v6Read := @readSocketAddrV6_bracketed address scope (':' :: decimalDigits n) ip _ ipRead
    scopeText
  simp only [List.append_assoc, List.cons_append, List.nil_append] at v6Read ⊢
  rw [readSocketAddr, readSocketAddrV4_bracket, v6Read, readPort_decimalDigits, dif_pos fits]
  rfl

/-- Parsing succeeds exactly when the reader reads the whole text. -/
theorem parseWith_eq_ok_iff {reader : List Char → Option (α × List Char)} {kind : AddrKind}
    {text : String} {value : α} :
    parseWith reader kind text = .ok value ↔ reader text.toList = some (value, []) := by
  refine ⟨parseWith_eq_ok, fun read => ?_⟩
  unfold parseWith
  rw [read]

/-- A port read whole from a printed number is that number, and it fits in `u16`. -/
theorem readPort_decimalDigits_eq_some {n : Nat} {port : Unsigned 16}
    (read : readPort (':' :: decimalDigits n) = some (port, [])) :
    ∃ fits : n < 2 ^ 16, port = ⟨n, fits⟩ := by
  rw [readPort_decimalDigits] at read
  split_ifs at read with fits
  · cases read
    exact ⟨fits, rfl⟩

end AddrParser

/-- A printed number is made of digits. -/
theorem decimalDigits_digit {n : Nat} {c : Char} (member : c ∈ decimalDigits n) :
    ∃ d < 10, Nat.digitChar d = c := by
  induction n using decimalDigits.induct with
  | case1 n small =>
      rw [decimalDigits, if_pos small, List.mem_singleton] at member
      exact ⟨n, small, member.symm⟩
  | case2 n large inductionHypothesis =>
      rw [decimalDigits, if_neg large, List.mem_append, List.mem_singleton] at member
      rcases member with member | rfl
      · exact inductionHypothesis member
      · exact ⟨n % 10, Nat.mod_lt n (by norm_num), rfl⟩

/-- A printed number has no closing bracket and no percent sign. -/
theorem decimalDigits_portText (n : Nat) : ∀ c ∈ decimalDigits n, c ≠ ']' ∧ c ≠ '%' := by
  intro c member
  obtain ⟨d, isDigit, rfl⟩ := decimalDigits_digit member
  have digit := @toDigit_digitChar 10 d isDigit isDigit
  constructor <;> intro same <;> simp [same] at digit

/-- `Ipv4Addr::from_str` accepts exactly the texts the IPv4 reader reads whole: its length
check refuses no text the reader would read. -/
theorem Ipv4Addr.fromStr_eq_ok_iff {text : List Char} {ip : Ipv4Addr} :
    Ipv4Addr.fromStr ⟨text⟩ = .ok ip ↔ AddrParser.readIpv4Addr text = some (ip, []) := by
  refine ⟨Ipv4Addr.readIpv4Addr_of_fromStr, fun read => ?_⟩
  have short := AddrParser.readIpv4Addr_length read
  rw [Ipv4Addr.fromStr, if_neg (by simp only [String.length, List.length_nil] at short ⊢; omega),
    AddrParser.parseWith_eq_ok_iff]
  exact read

/-- The socket addresses a host text gives before `:port`, with the port read after it: a
text `Ipv4Addr::from_str` accepts gives its address; in brackets, a text `Ipv6Addr::from_str`
accepts gives its address with a flow label and a scope id of zero, or, followed by `%` and a
scope id, its address with that scope id. -/
inductive SocketHost : List Char → Unsigned 16 → SocketAddr → Prop
  | ipv4 {text : List Char} {ip : Ipv4Addr} (parsed : Ipv4Addr.fromStr ⟨text⟩ = .ok ip)
      (port : Unsigned 16) : SocketHost text port (.v4 ⟨ip, port⟩)
  | ipv6 {address : List Char} {ip : Ipv6Addr} (parsed : Ipv6Addr.fromStr ⟨address⟩ = .ok ip)
      (port : Unsigned 16) :
      SocketHost ('[' :: address ++ [']']) port (.v6 ⟨ip, port, ⟨0, by norm_num⟩, ⟨0, by norm_num⟩⟩)
  | ipv6Scoped {address scope : List Char} {ip : Ipv6Addr} {scopeId : Unsigned 32}
      (parsed : Ipv6Addr.fromStr ⟨address⟩ = .ok ip)
      (scopeRead : AddrParser.readScopeId scope = some (scopeId, [])) (port : Unsigned 16) :
      SocketHost ('[' :: address ++ scope ++ [']']) port (.v6 ⟨ip, port, ⟨0, by norm_num⟩, scopeId⟩)

/-- The socket reader reads a host, a colon and a printed number whole exactly when the number
fits in `u16` and the host gives the address with that port. -/
theorem AddrParser.readSocketAddr_hostPort_iff {host : List Char} {n : Nat} {addr : SocketAddr} :
    AddrParser.readSocketAddr (host ++ ':' :: decimalDigits n) = some (addr, []) ↔
      ∃ fits : n < 2 ^ 16, SocketHost host ⟨n, fits⟩ addr := by
  constructor
  · intro read
    unfold AddrParser.readSocketAddr at read
    split at read
    · rename_i v4Addr rest v4Read
      simp only [Option.some.injEq, Prod.mk.injEq] at read
      obtain ⟨rfl, rfl⟩ := read
      obtain ⟨hostRead, portRead⟩ := AddrParser.readSocketAddrV4_hostPort v4Read
      obtain ⟨fits, addrPort⟩ := AddrParser.readPort_decimalDigits_eq_some portRead
      refine ⟨fits, ?_⟩
      rw [← addrPort]
      exact .ipv4 (Ipv4Addr.fromStr_eq_ok_iff.mpr hostRead) _
    · obtain ⟨⟨v6Addr, rest⟩, v6Read, same⟩ := Option.map_eq_some'.mp read
      simp only [Prod.mk.injEq] at same
      obtain ⟨rfl, rfl⟩ := same
      obtain ⟨address, scope, rfl, ipRead, scopeText, flowZero, portRead⟩ :=
        AddrParser.readSocketAddrV6_hostPort (decimalDigits_portText n) v6Read
      obtain ⟨fits, addrPort⟩ := AddrParser.readPort_decimalDigits_eq_some portRead
      obtain ⟨ip, port, flowinfo, scopeId⟩ := v6Addr
      dsimp only at ipRead scopeText flowZero addrPort
      subst flowZero addrPort
      have parsed : Ipv6Addr.fromStr ⟨address⟩ = .ok ip := AddrParser.parseWith_eq_ok_iff.mpr ipRead
      rcases scopeText with ⟨rfl, rfl⟩ | scopeRead
      · exact ⟨fits, by simpa using SocketHost.ipv6 parsed ⟨n, fits⟩⟩
      · exact ⟨fits, .ipv6Scoped parsed scopeRead _⟩
  · rintro ⟨fits, hostText⟩
    cases hostText with
    | ipv4 parsed =>
        have hostRead := Ipv4Addr.fromStr_eq_ok_iff.mp parsed
        rw [AddrParser.readSocketAddr, AddrParser.readSocketAddrV4,
          AddrParser.readIpv4Addr_append_map _ (by simp) (by simp), hostRead]
        simp only [Option.bind_eq_bind, Option.map_some', Option.some_bind, List.nil_append,
          AddrParser.readPort_decimalDigits, dif_pos fits]
    | @ipv6 address ip parsed =>
        have read := @AddrParser.readSocketAddr_bracketed address [] ip _ n
          (AddrParser.parseWith_eq_ok parsed) (.inl ⟨rfl, rfl⟩) fits
        rwa [List.append_nil] at read
    | ipv6Scoped parsed scopeRead =>
        exact AddrParser.readSocketAddr_bracketed (AddrParser.parseWith_eq_ok parsed)
          (.inr scopeRead) fits

/-- A host, a colon and a printed number parse as a socket address exactly when the number fits
in `u16` and the host gives that address with the number as its port: an IPv4 address, or a
bracketed IPv6 address with a flow label of zero and the scope id it has, zero when it has
none. -/
theorem SocketAddr.fromStr_hostPort {host : List Char} {n : Nat} {addr : SocketAddr} :
    SocketAddr.fromStr (⟨host⟩ ++ ":" ++ ⟨decimalDigits n⟩) = .ok addr ↔
      ∃ fits : n < 2 ^ 16, SocketHost host ⟨n, fits⟩ addr := by
  rw [SocketAddr.fromStr, AddrParser.parseWith_eq_ok_iff,
    show (⟨host⟩ ++ ":" ++ ⟨decimalDigits n⟩ : String).toList = host ++ ':' :: decimalDigits n by
      simp [String.toList]]
  exact AddrParser.readSocketAddr_hostPort_iff

end RocketMQ
