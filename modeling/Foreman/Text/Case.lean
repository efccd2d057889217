import Foreman.Text.Runs

/-!
# Letter case

Unicode 15.0's simple case mappings, one character to one: lower case, upper case, and the
case fold two characters share exactly when they differ in case only. Characters with
multi-character mappings (`ß`, `İ`) keep their simple mapping.
-/

namespace Foreman.Case

/-- The simple lower-case mapping, as runs of characters that map the same distance. -/
def lowerRuns : Array CodeRun := CodeRun.readTable (String.join [
  "1t.p+w 2u.m 2.6 y.1a:2+1 2-5j 2.4:2+1 3.e:2 3.18:2 2-3d 1.4:2+1 4+5u 1.2:2+1 2+5q 1+1 2.1+5p ",
  "1+1 3+27 1+5m 1+5n 1+1 2+5p 1+5r 2+5v 1+5t 1+1 4+5v 1+5x 2+5y 1.4:2+1 2+62 1+1 2+62 3+1 2+62 ",
  "1+1 2.1+61 1.2:2+1 2+63 1+1 4 8+2 1+1 2+2 1+1 2+2 1.g:2+1 3.g:2 3+2 1.2:2+1 2-2p 1-1k 1.12:2+1 ",
  "2-3m 2.g:2+1 8+8bv 1+1 2-4j 1+8bs 3+1 2-5f 1+1x 1+1z 1.8:2+1 82.2:2 4 9+38 7+12 2.2+11 2+1s ",
  "2.1+1r 2.g+w 2.8 10+8 9.m:2+1 6-1o 3+1 2-7 1+1 3.2-3m 1.f+28 1.v+w 1d.w:2+1 a.1g:2 2+f 1.c:2+1 ",
  "3.2m:2 3.11+1c 28a.11+5ls 2 6 k3.27+tzk 1.5+8 1p7.16-2bk 3.2 8x.44:2+1 a-5vj 2.2m:2+1 a.7-8 9.5 ",
  "b.7 9.7 9.5 c.6:2 9.7 p.7 9.7 9.7 9.1 1.1-22 1-9 c.3-2e 1-9 c.1-8 1.1-2s d.1-8 1.1-34 1-7 ",
  "c.1-3k 1.1-3i 1-9 8a-5st 4-6gv 1-6di 7+s 1a.f+g k+1 mr.p+q 1f5.1b+1c 1d+1 2-8af 1-2xy 1-89z ",
  "3.4:2+1 2-8bg 1-8al 1-8bj 1-8bi 2+1 3 9.1-8cf 1.2q:2+1 9.2:2 5 nym.18:2 k.q:2 3s.c:2 4.1o:2 ",
  "b.2:2 2-r9g 1.8:2+1 5 2-wmg 3.2:2+1 4.i:2 2-wn8 1-wnj 1-wnf 1-wn5 1-wn8 2-wlu 1-wmi 1-wlx 1+ps ",
  "1.e:2+1 2-1c 1-wn7 1-raw 1.2:2+1 7 6.2:2 t h7w.p+w xy.13+14 3t.z 4d.a+13 2.e 2.6 2.1 1d7.1e+1s ",
  "2cu.v+w gw1.v o81.x+y"])

/-- The simple upper-case mapping, as runs of characters that map the same distance. -/
def upperRuns : Array CodeRun := CodeRun.readTable (String.join [
  "2p.p-w 1n+kn 17.m-w 2.6 1+3d 2.1a:2-1 2-6g 2.4:2-1 3.e:2 3.18:2 3.4:2 1-8c 1+5f 3.2:2-1 3 4 6 ",
  "3+2p 4-1 1+4j 4+3m 3.4:2-1 3 5 3 4.2:2 3 4 2+1k 6-1 1-2 2-1 1-2 2-1 1-2 2.e:2-1 1-27 2.g:2-1 3 ",
  "1-2 2-1 4.12:2 4.g:2 9 3.1+8cf 2-1 5.8:2 1+8bj 1+8bg 1+8bi 1-5u 1-5q 2.1-5p 2-5m 2-5n 1+wnj ",
  "4-5p 1+wnf 2-5r 2+wmg 1+wn8 2-5t 1-5v 1+wn8 1+8af 1+wn5 3-5v 2+8al 1-5x 3-5y 8+89z 3-62 2+wn7 ",
  "1-62 4+wmi 1-62 1-1x 1.1-61 1-1z 6-63 b+wlx 1+wlu 4n+2c 18.2:2-1 4 4.2+3m 1b-12 1.2-11 2.g-w ",
  "1-v 1.8-w 1-1s 1.1-1r 2-1q 1-1l 4-1b 1-1i 1-8 2.m:2-1 1-2e 1-28 1+7 1-38 2-2o 3-1 3 1h.v-w ",
  "1.f-28 2.w:2-1 a.1g:2 3.c:2 1-f 2.2m:2-1 1e.11-1c 28a.16+2bk 3.2 l5.5-8 1oj-4tq 1-4tp 1-4tg ",
  "1.1-4te 1-4tf 1-4t8 1-4rp 1+r7m 6p+r9g 4+2xy h+raw 37.44:2-1 6-1n 6.2m:2-1 1.7+8 9.5 b.7 9.7 ",
  "9.5 c.6:2 9.7 9.1+22 1.3+2e 1.1+2s 1.1+3k 1.1+34 1.1+3i 3.7+8 9.7 9.7 9.1 2+9 b-5k5 5+9 d.1+8 ",
  "f.1 4+7 e+9 9n-s y.f-g 5-1 ng.p-q 1fr.1b-1c 2-1 4-8bv 1-8bs 2.4:2-1 7 3 b.2q:2 9.2:2 5 d.11-5ls ",
  "2 6 nx0.18:2-1 k.q:2 3s.c:2 4.1o:2 b.2:2 3.8:2 5 5.2:2 1+1c 3.i:2-1 c.e:2 5.2:2 7 6.2:2 t nx-ps ",
  "t.27-tzk ghu.p-w y6.13-14 3t.z 4c.a-13 2.e 2.6 2.1 1dw.1e-1s 2by.v-w gw1.v o83.x-y"])

/-- The simple case folding, as runs of characters that map the same distance. -/
def foldRuns : Array CodeRun := CodeRun.readTable (String.join [
  "1t.p+w 2j+lj b.m+w 2.6 y.1a:2+1 4.4:2 3.e:2 3.18:2 2-3d 1.4:2+1 2-7g 2+5u 1.2:2+1 2+5q 1+1 ",
  "2.1+5p 1+1 3+27 1+5m 1+5n 1+1 2+5p 1+5r 2+5v 1+5t 1+1 4+5v 1+5x 2+5y 1.4:2+1 2+62 1+1 2+62 3+1 ",
  "2+62 1+1 2.1+61 1.2:2+1 2+63 1+1 4 8+2 1+1 2+2 1+1 2+2 1.g:2+1 3.g:2 3+2 1.2:2+1 2-2p 1-1k ",
  "1.12:2+1 2-3m 2.g:2+1 8+8bv 1+1 2-4j 1+8bs 3+1 2-5f 1+1x 1+1z 1.8:2+1 6v+38 17.2:2+1 4 9+38 ",
  "7+12 2.2+11 2+1s 2.1+1r 2.g+w 2.8 n+1 d+8 1-u 1-p 4-f 1-m 2.m:2+1 2-1i 1-1c 3-1o 1-1s 2+1 2-7 ",
  "1+1 3.2-3m 1.f+28 1.v+w 1d.w:2+1 a.1g:2 2+f 1.c:2+1 3.2m:2 3.11+1c 28a.11+5ls 2 6 mj.5-8 ",
  "1oj-4su 1-4st 1-4sk 1.1-4si 1-4sj 1-4sc 1-4ro 1+r7n 8.16-2bk 3.2 8x.44:2+1 7-1m 3-5vj 2.2m:2+1 ",
  "a.7-8 9.5 b.7 9.7 9.5 c.6:2 9.7 p.7 9.7 9.7 9.1 1.1-22 1-9 2-5j9 a.3-2e 1-9 c.1-8 1.1-2s d.1-8 ",
  "1.1-34 1-7 c.1-3k 1.1-3i 1-9 8a-5st 4-6gv 1-6di 7+s 1a.f+g k+1 mr.p+q 1f5.1b+1c 1d+1 2-8af ",
  "1-2xy 1-89z 3.4:2+1 2-8bg 1-8al 1-8bj 1-8bi 2+1 3 9.1-8cf 1.2q:2+1 9.2:2 5 nym.18:2 k.q:2 ",
  "3s.c:2 4.1o:2 b.2:2 2-r9g 1.8:2+1 5 2-wmg 3.2:2+1 4.i:2 2-wn8 1-wnj 1-wnf 1-wn5 1-wn8 2-wlu ",
  "1-wmi 1-wlx 1+ps 1.e:2+1 2-1c 1-wn7 1-raw 1.2:2+1 7 6.2:2 t or.27-tzk ggy.p+w xy.13+14 3t.z ",
  "4d.a+13 2.e 2.6 2.1 1d7.1e+1s 2cu.v+w gw1.v o81.x+y"])

def lower (c : Char) : Char :=
  if c.toNat < 0x80 then (if 'A' ≤ c && c ≤ 'Z' then Char.ofNat (c.toNat + 32) else c)
  else CodeRun.apply lowerRuns c

def upper (c : Char) : Char :=
  if c.toNat < 0x80 then (if 'a' ≤ c && c ≤ 'z' then Char.ofNat (c.toNat - 32) else c)
  else CodeRun.apply upperRuns c

def fold (c : Char) : Char :=
  if c.toNat < 0x80 then (if 'A' ≤ c && c ≤ 'Z' then Char.ofNat (c.toNat + 32) else c)
  else CodeRun.apply foldRuns c

end Foreman.Case
