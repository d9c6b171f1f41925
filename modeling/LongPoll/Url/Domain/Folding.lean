import LongPoll.Text.Packed

/-!
What the characters of a written name stand for, after the mapping table of Unicode 17.0.

A name may be written in capitals, in wide or styled letters, with ligatures, and with characters
that mean nothing. The table gives for each character the characters of the name that it stands for.
-/

namespace LongPoll.Url.Domain

/-- What becomes of a written character. -/
inductive Folding where
  /-- It stands for itself. -/
  | kept
  /-- It stands for nothing. -/
  | ignored
  /-- No name is written with it. -/
  | refused
  /-- It stands for the character so many places above. -/
  | raised (distance : Nat)
  /-- It stands for the character so many places below. -/
  | lowered (distance : Nat)
  /-- It stands for the characters with these numbers. -/
  | spelled (numbers : List Nat)
  deriving DecidableEq, Repr

/-- The table. A row has a length, and: `K` kept, `I` ignored, `X` refused, `U` raised and `D`
lowered by a number, `T` spelled by numbers; in a run `A`, capitals and small letters take turns. -/
def foldingLines : List String := [
  "K1t Uq.w K11 Xw D1.3k K7 T1.w.lk K1 D1.21 K2 I1 K1 T1.w.lg K2 D2.3k T1.w.ld U1.lj K2 T1.w.mf",
  "D1.3s D1.23 K1 T1.1d.6dg.1g T1.1d.6dg.1e T1.1f.6dg.1g K1 Un.w K1 U7.w Kx A1c T1.2x.lj K1",
  "T2.2x.2y U1.1 K1 U1.1 K2 A6 T2.30.53 A8 T1.jg.32 A1a D1.3d A6 D1.7g K1 U1.5u A4 U1.5q U1.1 K1",
  "U2.5p U1.1 K2 U1.27 U1.5m U1.5n U1.1 K1 U1.5p U1.5r K1 U1.5v U1.5t U1.1 K3 U1.5v U1.5x K1",
  "U1.5y A6 U1.62 U1.1 K1 U1.62 K2 U1.1 K1 U1.62 U1.1 K1 U2.61 A4 U1.63 U1.1 K3 U1.1 K7 T3.2s.am",
  "T3.30.2y T3.32.2y Ae U1.1 K2 Ag U1.1 K2 T3.2s.3e U1.1 K1 D1.2p D1.1k A14 D1.3m K1 Ag U1.1 K7",
  "U1.8bv U1.1 K1 D1.4j U1.8bs K2 U1.1 K1 D1.5f U1.1x U1.1z A8 U1.1 K2p D1.g8 D1.23 D1.g8 D1.g1",
  "D1.1n D1.1m D1.1h D1.g0 D1.fz Kv T1.w.li T1.w.lj T1.w.lm T1.w.mg T1.w.lf T1.w.ln K2 D1.3h",
  "D1.hh D1.hb D1.h7 D1.27 K2j D2.1s K1 D1.1c T1.lk.ld U1.38 K9 I1 Kw A4 D1.57 K1 U1.1 K1 X2",
  "T1.w.qh K3 D1.n7 U1.38 X4 T1.w.ld T1.w.lk.ld U1.12 D1.k0 U3.11 X1 U1.1s X1 U2.1r K1 Uh.w X1",
  "U9.w Kz U1.8 D1.u D1.p D1.d D1.6 D1.9 D1.f D1.m K1 Ao D1.1i D1.1c D1.1b K1 D1.1o D1.1s K1",
  "U1.1 K1 D1.1i U1.1 K2 D3.3m Ug.28 Uw.w K1c Aw U1.1 K9 A1i U1.f Ac U1.1 K2 A2o X1 U12.1c X2",
  "K1a T1.12d.136 K3 X2 K3 X1 K1j X8 Kr X4 K6 Xh Km X1 K2g T1.17r.19w T1.18o.19w T1.1c7.19w",
  "T1.18q.19w K2s X1 K1c X2 K1n X2 K2t Xe K1n X2 K1d X2 Kf X1 Ks X2 K1 X1 Kb X5 Kw X7 K23 X1 K39",
  "T1.1sl.1to T1.1sm.1to T1.1sn.1to T1.1ss.1to T1.1sx.1to T1.1sy.1to T1.1t7.1to T1.1tb.1to K10",
  "X1 K8 X2 K2 X2 Km X1 K7 X1 K1 X3 K4 X2 K9 X2 K2 X2 K4 X8 K1 X4 T1.1wh.1x8 T1.1wi.1x8 X1",
  "T1.1wv.1x8 K4 X2 Kp X2 K3 X1 K6 X4 K2 X2 Km X1 K7 X1 K1 T1.20i.20s X1 K1 T1.20o.20s X1 K2 X2",
  "K1 X1 K5 X4 K2 X2 K3 X3 K1 X7 T1.1zq.20s T1.1zr.20s T1.1zw.20s K1 X1 T1.20b.20s X7 Kh Xa K3",
  "X1 K9 X1 K3 X1 Km X1 K7 X1 K2 X1 K5 X2 Ka X1 K3 X1 K3 X2 K1 Xf K4 X2 Kc X7 K7 X1 K3 X1 K8 X2",
  "K2 X2 Km X1 K7 X1 K2 X1 K5 X2 K9 X2 K2 X2 K3 X7 K3 X4 T1.275.27w T1.276.27w X1 K5 X2 Ki Xa K2",
  "X1 K6 X3 K3 X1 K4 X3 K2 X1 K1 X1 K2 X3 K2 X3 K3 X3 Kc X4 K5 X3 K3 X1 K4 X2 K1 X6 K1 Xe Kl X5",
  "Kd X1 K3 X1 Kn X1 Kg X2 K9 X1 K3 X1 K4 X7 K2 X1 K3 X1 K2 X2 K4 X2 Ka X7 Km X1 K3 X1 Kn X1 Ka",
  "X1 K5 X2 K9 X1 K3 X1 K4 X7 K2 X5 K3 X1 K4 X2 Ka X1 K3 Xc Kd X1 K3 X1 K1f X1 K3 X1 K6 X4 Kg X2",
  "Kq X1 K3 X1 Ki X3 Ko X1 K9 X1 K1 X2 K7 X3 K1 X4 K6 X1 K1 X1 K8 X6 Ka X2 K3 Xc K1e T1.2tp.2sy",
  "K7 X4 Kt X11 K2 X1 K1 X1 K5 X1 Ko X1 K1 X1 Kc T1.2x9.2wi Ka X2 K5 X1 K1 X1 K7 X1 Ka X2",
  "T1.2wb.2vt T1.2wb.2w1 K2 Xw Kc D1.1 K1i T1.30i.33r K4 X1 K4 T1.30s.33r K4 T1.30x.33r K4",
  "T1.312.33r K4 T1.317.33r Kc T1.30g.33p K3 X4 K2 T1.31t.31u K1 T1.31t.31w T1.33m.328",
  "T1.33m.31t.328 T1.33n.328 T1.33n.31t.328 K7 T1.31t.328 Kh T1.32q.33r K4 X1 K4 T1.330.33r K4",
  "T1.335.33r K4 T1.33a.33r K4 T1.33f.33r Kc T1.32o.33p K3 X1 Kf X1 Kd X11 K4g U12.5ls X1 U1.5ls",
  "X5 U1.5ls X2 K18 D1.w K2q I2 K6g X1 K4 X2 K7 X1 K1 X1 K4 X2 K15 X1 K4 X2 Kx X1 K4 X2 K7 X1 K1",
  "X1 K4 X2 Kf X1 K1l X1 K4 X2 K1v X2 Kw X3 Kq X6 K2e X2 D6.8 X2 Khs X1 Ks X3 K2h X7 Km X9 Ko X9",
  "Kk Xc Kd X1 K3 X1 K2 Xc K1g I2 K14 X2 Ka X6 Ka X6 Kb I5 Ka X6 K2h X7 K17 X5 K1y Xa Kv X1 Kc",
  "X4 Kc X4 K1 X3 K16 X2 K5 Xb K18 X4 Kq X6 Kb X3 K1q X2 K1t X1 Kt X2 Kb X6 Ka X6 Ke X2 K1a X2",
  "Kc Xk K25 X1 K4m X8 K1o X3 Kf X3 K1f D1.4su D1.4st D1.4sk D2.4si D1.4sj D1.4sc D1.4ro U1.r7n",
  "U1.1 K1 X5 D17.2bk X2 D3.2bk K8 X8 K17 X5 K18 D1.5or D1.5l3 D1.5os K1 D2.5os D1.5ed D8.5os K1",
  "D1.5ot D1.5cq D1.5ou D1.5ot D2.5os D1.5or D1.5pe D2.5bo D1.1w D1.5ph D2.5pg D1.5bl D2.5bk",
  "D1.5pi K1 D1.5pg D1.5pf D1.5ja D1.5pf D1.5bz D2.1q D1.5pi D2.5pf D1.1o D1.5bf D1.5ph D1.1j",
  "D3.52j D2.522 D1.5q1 D1.5pt D2.5pr D2.52s D1.52f D2.52b Kd D1.4zf Ky D1.5e1 D1.5rt D1.5e0",
  "D1.5ny D1.5dv D1.5ru D1.5du D1.5dt D1.5dq D3.5do D1.18 D1.5cb D1.5do D1.11 D1.5cc D1.5dn",
  "D1.5dp D4.5do D1.5dm D2.5dd D1.5je D2.5d9 D1.4c D2.5da D1.5s1 D3.5d8 D1.553 K1s A44 U1.1 K5",
  "T1.2p.ji D1.1m K2 D1.5vj K1 A2m U1.1 K9 D8.8 K6 X2 D6.8 X2 K8 D8.8 K8 D8.8 K6 X2 D6.8 X2 K8",
  "X1 D1.8 X1 D1.8 X1 D1.8 X1 D1.8 K8 D8.8 K1 D1.5hh K1 D1.5hi K1 D1.5hj K1 D1.5hk K1 D1.5gt K1",
  "D1.5gu K1 D1.5gv X2 T1.64g.qh T1.64h.qh T1.64i.qh T1.64j.qh T1.64k.qh T1.64l.qh T1.64m.qh",
  "T1.64n.qh T1.64g.qh T1.64h.qh T1.64i.qh T1.64j.qh T1.64k.qh T1.64l.qh T1.64m.qh T1.64n.qh",
  "T1.65c.qh T1.65d.qh T1.65e.qh T1.65f.qh T1.65g.qh T1.65h.qh T1.65i.qh T1.65j.qh T1.65c.qh",
  "T1.65d.qh T1.65e.qh T1.65f.qh T1.65g.qh T1.65h.qh T1.65i.qh T1.65j.qh T1.674.qh T1.675.qh",
  "T1.676.qh T1.677.qh T1.678.qh T1.679.qh T1.67a.qh T1.67b.qh T1.674.qh T1.675.qh T1.676.qh",
  "T1.677.qh T1.678.qh T1.679.qh T1.67a.qh T1.67b.qh K2 T1.67k.qh T1.q9.qh T1.q4.qh X1 K1",
  "T1.69i.qh D2.8 D1.22 D1.5jj T1.q9.qh T1.w.lv D1.5j9 T1.w.lv T1.w.n6 T1.w.lk.n6 T1.67o.qh",
  "T1.qf.qh T1.q6.qh X1 K1 T1.69y.qh D1.2e D1.5jw D1.2e D1.5jx T1.qf.qh T1.w.lv.lc T1.w.lv.ld",
  "T1.w.lv.n6 K3 D1.5kz X2 K2 D2.8 D1.2s D1.5kc X1 T1.w.lw.lc T1.w.lw.ld T1.w.lw.n6 K3 D1.5kj K4",
  "D2.8 D1.34 D1.5jy D1.7 T1.w.lk.lc T1.w.lk.ld D1.68f X2 T1.67w.qh T1.qx.qh T1.r2.qh X1 K1",
  "T1.6ba.qh D1.3k D1.5kd D1.3i D1.5kd T1.qx.qh T1.w.ld T1.w.lw X1 Tb.w I1 K2 X2 K1 D1.1 K5",
  "T1.w.mr Kc X3 K1 X7 D1.6bz K3 T1.6cy.6cy T1.6cy.6cy.6cy K1 T1.6d1.6d1 T1.6d1.6d1.6d1 K4",
  "T1.x.x K1 T1.w.lh K8 T1.1r.1r T1.1r.x T1.x.1r Kd T1.6cy.6cy.6cy.6cy K7 D1.6db I5 X5 I6 D1.6dc",
  "D1.6bs X2 D6.6dc D1.6dr U1.bb D1.6db D2.6dx D1.6c1 Da.6ds D1.6e7 U1.av D1.6dr D2.6ed X1",
  "D1.6cv D1.6cs D1.6cj D1.6cb D1.5yz D1.6ct D4.6cr D1.6cq D2.6co X3 K8 T1.36.37 Kp Xe Kx Xf",
  "T1.2p.1b.2r T1.2p.1b.37 D1.6fz T1.4w.2r K1 T1.2r.1b.33 T1.2r.1b.39 D1.624 K1 T1.4w.2u D2.6g3",
  "T3.2w D1.6aw T2.2x T2.30 K1 D1.6g7 T1.32.33 K2 D3.6g9 T2.36 K2 T1.37.31 T1.38.2t.30 T1.38.31",
  "K1 D1.6ga K1 D1.5st K1 D1.6ge K1 D1.6gv D1.6di D2.6h6 K1 T2.2t D1.6h7 U1.s D1.6h2 D1.6h1",
  "D4.5et D1.6hc K1 T1.2u.2p.3c D1.5to T2.qb D1.5tr U1.5t K4 T2.2s D1.6hu D2.6hr K6 T1.1d.6dg.1j",
  "T1.1d.6dg.1l T1.1d.6dg.1d.1c T1.1d.6dg.1f T1.1e.6dg.1f T1.1d.6dg.1h T1.1e.6dg.1h T1.1f.6dg.1h",
  "T1.1g.6dg.1h T1.1d.6dg.1i T1.1h.6dg.1i T1.1d.6dg.1k T1.1f.6dg.1k T1.1h.6dg.1k T1.1j.6dg.1k",
  "T1.1d.6dg D1.6if T1.2x.2x T1.2x.2x.2x T1.2x.3a D1.6i6 T1.3a.2x T1.3a.2x.2x T1.3a.2x.2x.2x",
  "T1.2x.3c D1.6i9 T1.3c.2x T1.3c.2x.2x D1.6io D2.6iy D1.6iq D1.6iv T1.2x.2x T1.2x.2x.2x",
  "T1.2x.3a D1.6im T1.3a.2x T1.3a.2x.2x T1.3a.2x.2x.2x T1.2x.3c D1.6ip T1.3c.2x T1.3c.2x.2x",
  "D1.6j4 D2.6je D1.6j6 K3 U1.1 K5 T1.1c.6dg.1f K2 X4 K4c T1.6qz.6qz T1.6qz.6qz.6qz K1",
  "T1.6r2.6r2 T1.6r2.6r2.6r2 K6w U2.2jj K73 Xm Kb Xl D9.75b T1.1d.1c T1.1d.1d T1.1d.1e T1.1d.1f",
  "T1.1d.1g T1.1d.1h T1.1d.1i T1.1d.1j T1.1d.1k T1.1d.1l T1.1e.1c T1.14.1d.15 T1.14.1e.15",
  "T1.14.1f.15 T1.14.1g.15 T1.14.1h.15 T1.14.1i.15 T1.14.1j.15 T1.14.1k.15 T1.14.1l.15",
  "T1.14.1d.1c.15 T1.14.1d.1d.15 T1.14.1d.1e.15 T1.14.1d.1f.15 T1.14.1d.1g.15 T1.14.1d.1h.15",
  "T1.14.1d.1i.15 T1.14.1d.1j.15 T1.14.1d.1k.15 T1.14.1d.1l.15 T1.14.1e.1c.15 Xk T1.14.2p.15",
  "T1.14.2q.15 T1.14.2r.15 T1.14.2s.15 T1.14.2t.15 T1.14.2u.15 T1.14.2v.15 T1.14.2w.15",
  "T1.14.2x.15 T1.14.2y.15 T1.14.2z.15 T1.14.30.15 T1.14.31.15 T1.14.32.15 T1.14.33.15",
  "T1.14.34.15 T1.14.35.15 T1.14.36.15 T1.14.37.15 T1.14.38.15 T1.14.39.15 T1.14.3a.15",
  "T1.14.3b.15 T1.14.3c.15 T1.14.3d.15 T1.14.3e.15 Dq.76d Dq.773 D1.796 K10h T1.6qz.6qz.6qz.6qz",
  "K2v T1.1m.1m.1p T1.1p.1p T1.1p.1p.1p K2t T1.8gt.mw K47 X2 K3u U1c.1c K1c U1.1 K1 D1.8af",
  "D1.2xy D1.89z K2 A6 D1.8bg D1.8al D1.8bj D1.8bi K1 U1.1 K2 U1.1 K6 D1.8pe D1.8p3 D2.8cf A2q",
  "U1.1 K8 U1.1 K1 U1.1 K4 U1.1 K1 X5 K19 X1 K1 X5 K1 X2 K1k X7 D1.e K1 Xe Ko X9 K7 X1 K7 X1 K7",
  "X1 K7 X1 K7 X1 K7 X1 K7 X1 K7 X1 K3i Xy Kq X1 K4 U1.c32 K2b U1.m98 Xc U1.64g U1.65j U1.65w",
  "U1.664 U1.66t U1.680 U1.686 U1.68p U1.69e U1.6ra U1.6sb U1.6sg U1.6t2 U1.6tl U1.6u5 U1.6vl",
  "U1.6w5 U1.6wf U1.70p U1.73a U1.741 U1.745 U1.74y U1.756 U1.75w U1.768 U1.76w U1.78b U1.78s",
  "U1.79i U1.7uh U1.7wg U1.897 U1.89t U1.8a0 U1.8aa U1.8ar U1.8cu U1.8q2 U1.8rd U1.8uo U1.8va",
  "U1.8vs U1.8wd U1.8xu U1.8xw U1.97x U1.986 U1.98h U1.98t U1.9c0 U1.9c7 U1.9cb U1.9fj U1.9fs",
  "U1.9g4 U1.9gb U1.9hz U1.9if U1.9iw U1.9l3 U1.a17 U1.a2g U1.a30 U1.anj U1.ann U1.apx U1.aqc",
  "U1.aqo U1.ar8 U1.asa U1.ase U1.azs U1.b0f U1.b1a U1.bth U1.bva U1.bvw U1.bxh U1.by4 U1.byc",
  "U1.byi U1.bzx U1.c01 U1.c0w U1.cuu U1.d78 U1.d7j U1.d7n U1.d7q U1.d7x U1.d8e U1.d8f U1.dan",
  "U1.dgm U1.dgq U1.dq4 U1.dqd U1.drq U1.drw U1.ds4 U1.dsb U1.dut U1.duz U1.e1a U1.e1g U1.e2s",
  "U1.e38 U1.e4i U1.eb2 U1.eb8 U1.ebo U1.ekq U1.eo7 U1.eoc U1.etd U1.evr U1.ex0 U1.f7h U1.fb5",
  "U1.fr2 U1.frs U1.ftc U1.fuq U1.fwl U1.fwv U1.fx0 U1.fxw U1.fzz U1.g08 U1.g9t U1.g9z U1.ga7",
  "U1.gaf U1.gau U1.gb8 U1.gbb U1.gdh U1.gdk U1.gdp U1.h4x U1.h5q U1.hiq U1.hj1 U1.hjn U1.hrh",
  "U1.hrt U1.htr U1.hv0 U1.iaq U1.ib4 U1.ibi U1.icg U1.idg U1.iiy U1.ij9 U1.il3 U1.iry U1.iss",
  "U1.iyk U1.iz4 U1.iz8 U1.j5b U1.jae U1.jdu U1.jdz U1.je3 U1.k40 U1.k48 U1.k8j U1.kcs U1.kcu",
  "U1.ke4 U1.kh0 U1.khc U1.khf U1.khl U1.kka U1.kl7 U1.klc U1.klp U1.kqb U1.krp U1.krs U1.kwu",
  "U1.kww U1.kxe U1.l4d U1.l5o U1.l5u U1.l7r U1.l80 U1.l82 U1.l8b U1.l94 U1.lk2 U1.lv5 U1.lve",
  "U1.lwf U1.lx0 U1.lx7 U1.lxg U1.lxj U1.lym U1.lyp U1.lz5 U1.lz9 U1.lzl U1.m0b U1.m0p U1.m0w",
  "U1.m2i U1.m2w U1.m2z X16 D1.9gg K1 D1.9g4 K1f D1.10 K1 U1.6x5 U2.6x7 K5 X1 K2e X2 K2 T1.w.9ll",
  "T1.w.9lm K2 T1.9l4.9l6 K2n T1.9mb.9mw X5 K17 X1 D2.6cx D1.689 D1.6cy D2.689 D3.6d0 D6.68a",
  "D1.6cm D3.6d7 D1.6cj Da.6d8 Dl.6b2 I1 D2.6dt D2.68w D1.68t D1.68s D1.68o D1.68l D1.68k D1.6du",
  "D1.68i D1.68h D2.6dw D1.6dv D2.6du D1.6dr D1.6dq D5.6dp D1.6dn D1.6dk D1.6db D1.6d5 D1.6d1",
  "D2.68h D3.6ct D2.6bn D1.6bl D2.6bd D1.6bc D1.6b3 D1.6b1 X1 K2 U1.5m6 U1.5q1 U1.5md U1.7d2",
  "U1.5mc U1.5na U1.5mb U1.dcp U1.5of U1.5mm U1.5lx U1.7t8 U1.7f6 U1.5qz K1y Xa Kg T1.14.3cw.15",
  "T1.14.3cy.15 T1.14.3cz.15 T1.14.3d1.15 T1.14.3d2.15 T1.14.3d3.15 T1.14.3d5.15 T1.14.3d7.15",
  "T1.14.3d8.15 T1.14.3da.15 T1.14.3db.15 T1.14.3dc.15 T1.14.3dd.15 T1.14.3de.15 T1.14.xz4.15",
  "T1.14.yvs.15 T1.14.zc4.15 T1.14.108s.15 T1.14.10p4.15 T1.14.115g.15 T1.14.1224.15",
  "T1.14.12ys.15 T1.14.13f4.15 T1.14.14bs.15 T1.14.14s4.15 T1.14.158g.15 T1.14.15os.15",
  "T1.14.1654.15 T1.14.13p8.15 T1.14.1350.13ic.15 T1.14.1350.16f8.15 X1 T1.14.feo.15",
  "T1.14.fik.15 T1.14.fex.15 T1.14.h5n.15 T1.14.fis.15 T1.14.g31.15 T1.14.fer.15 T1.14.g2z.15",
  "T1.14.fh9.15 T1.14.gg1.15 T1.14.kco.15 T1.14.m7f.15 T1.14.ldg.15 T1.14.kdk.15 T1.14.ssx.15",
  "T1.14.h7j.15 T1.14.k4l.15 T1.14.kkq.15 T1.14.kcp.15 T1.14.ny6.15 T1.14.glp.15 T1.14.mm1.15",
  "T1.14.rs1.15 T1.14.nz1.15 T1.14.gc4.15 T1.14.fkz.15 T1.14.gos.15 T1.14.i1y.15 T1.14.nhf.15",
  "T1.14.flt.15 T1.14.rt3.15 T1.14.ggk.15 T1.14.nzh.15 T1.14.fm9.15 T1.14.pnu.15 T1.14.po3.15",
  "U1.6x7 U1.8qf U1.a4h U1.eh4 K8 T1.34.38.2t T1.1e.1d T1.1e.1e T1.1e.1f T1.1e.1g T1.1e.1h",
  "T1.1e.1i T1.1e.1j T1.1e.1k T1.1e.1l T1.1f.1c T1.1f.1d T1.1f.1e T1.1f.1f T1.1f.1g T1.1f.1h",
  "D1.6lc D2.6lb D3.6la D1.6l9 D2.6l8 D5.6l7 U1.o0i U1.ox5 U1.pdg U1.qa3 U1.qqe U1.r6p U1.s3c",
  "U1.szz U1.tga U1.ucx U1.ut8 U1.v9j U1.vpu U1.w65 T1.14c8.y5c T1.13p8.13dk U1.t9u K1 U1.5fk",
  "U1.5jf U1.5fr U1.76g U1.5jk U1.63s U1.5fh U1.63o U1.5hx U1.6go U1.ada U1.c80 U1.be0 U1.ae3",
  "U1.itf U1.780 U1.a51 U1.al5 U1.ad3 U1.dyj U1.6m1 U1.cmc U1.hsb U1.dza U1.6cc U1.e2n U1.d5p",
  "U1.7o8 U1.ij1 U1.619 U1.6he U1.bih U1.k11 U1.5m8 U1.647 U1.b7k U1.5eu U1.5fs U1.5et U1.8jj",
  "U1.6kr U1.6fm U1.831 U1.81n U1.dh3 U1.5lg U1.hsp U1.6g5 U1.7l8 T1.1f.1i T1.1f.1j T1.1f.1k",
  "T1.1f.1l T1.1g.1c T1.1g.1d T1.1g.1e T1.1g.1f T1.1g.1g T1.1g.1h T1.1g.1i T1.1g.1j T1.1g.1k",
  "T1.1g.1l T1.1h.1c T1.1d.kco T1.1e.kco T1.1f.kco T1.1g.kco T1.1h.kco T1.1i.kco T1.1j.kco",
  "T1.1k.kco T1.1l.kco T1.1d.1c.kco T1.1d.1d.kco T1.1d.1e.kco T1.2w.2v T1.2t.36.2v T1.2t.3a",
  "T1.30.38.2s D1.fi D1.fh D1.fg D1.ff D2.fe D1.fd D1.fc D1.fb D1.fa D1.f9 D1.f8 D1.f7 D1.f6",
  "D1.f5 D1.f4 D1.f3 D1.f1 D1.f0 D1.ez D6.ey D1.ew D1.eu D1.es D1.eq D5.eo D1.en D1.em D6.el",
  "D4.ek T1.fl0.gp8 T1.9lu.9n5.9oc.9mw T1.9lu.9nv.9n9.9lt T1.9lu.9o3.9ne.9lu T1.9lu.9oc.9nv",
  "T1.9lw.9mz.9o3.9m8 T1.9lw.9o3.9mp T1.9ly.9m1.9o3 T1.9m0.9mh.9m7.9oc.9mx T1.9m0.9oc.9m3.9oc",
  "T1.9m2.9o3.9mh T1.9m2.9oc.9nk T1.9m3.9lw.9nu T1.9m3.9nt.9mr.9mw T1.9m3.9nx.9nu.9oc",
  "T1.9m4.9nx.9o3 T1.9m4.9o3.9ni T1.9m6.9m4 T1.9m6.9mz.9oc T1.9m5.9np.9nu.9oc T1.9m6.9nv.9mo.9oc",
  "T1.9m5.9nx T1.9m5.9nx.9m8.9nt.9nk T1.9m5.9nx.9nl.9oc.9mw.9nv T1.9m5.9nx.9nz.9mr.9mw",
  "T1.9m8.9nt.9nk T1.9m8.9nt.9nk.9mw.9o3 T1.9m7.9nv.9mk.9lw.9nx T1.9m7.9nx.9oc.9n1",
  "T1.9m9.9oc.9mh T1.9mb.9nv.9my T1.9mb.9oc.9nh T1.9md.9lw.9m7.9nv T1.9md.9o3.9mp.9oc.9nk",
  "T1.9mf.9nu.9o3.9m8 T1.9mj.9o3.9mp T1.9mj.9o3.9mw T1.9mo.9oc.9mh T1.9mv.9mf T1.9mx.9nv",
  "T1.9mw.9o3 T1.9my.9n2 T1.9n2.9mr.9mw T1.9n3.9lw.9ms T1.9n5.9oc.9mj.9o3.9mw T1.9n5.9oc.9ms",
  "T1.9n4.9oc.9nw.9nv T1.9n8.9lu.9mh.9mw.9nv T1.9n8.9m7.9nv T1.9n8.9mb T1.9n7.9nv",
  "T1.9n9.9lt.9nt.9mr.9mx T1.9n9.9lv.9oc.9mw T1.9na.9mr.9mf.9lz.9nv T1.9n9.9nt.9o3",
  "T1.9nc.9m7.9mn.9oc.9nv T1.9ne.9ml T1.9ne.9mz.9n6 T1.9nc.9nv.9ms T1.9ne.9o3.9mh T1.9ne.9oc.9mg",
  "T1.9nd.9oc.9mn T1.9nh.9lw.9o3.9mw T1.9ng.9nv.9mw T1.9nf.9o3 T1.9nh.9o3.9mx T1.9nf.9oc.9nv",
  "T1.9nf.9oc.9o3 T1.9ni.9lw.9m7.9nx T1.9ni.9lw.9nv T1.9ni.9mr.9n3 T1.9ni.9nv.9m7",
  "T1.9ni.9o3.9mf.9nr.9o3 T1.9nj.9m7.9nx.9o3 T1.9nj.9nu T1.9nj.9nu.9n4.9oc.9nv T1.9nl.9m4",
  "T1.9nl.9m4.9mw.9o3 T1.9nl.9oc.9mw.9nv T1.9no.9oc.9mx T1.9no.9oc.9nv T1.9nq.9lu.9o3",
  "T1.9nu.9mr.9mw.9nv T1.9nu.9nt T1.9nv.9n8.9oc T1.9nv.9oc.9na.9nv T1.9nw.9nk",
  "T1.9nw.9o3.9mw.9ma.9o3 T1.9nz.9mr.9mw T1.1c.m9l T1.1d.m9l T1.1e.m9l T1.1f.m9l T1.1g.m9l",
  "T1.1h.m9l T1.1i.m9l T1.1j.m9l T1.1k.m9l T1.1l.m9l T1.1d.1c.m9l T1.1d.1d.m9l T1.1d.1e.m9l",
  "T1.1d.1f.m9l T1.1d.1g.m9l T1.1d.1h.m9l T1.1d.1i.m9l T1.1d.1j.m9l T1.1d.1k.m9l T1.1d.1l.m9l",
  "T1.1e.1c.m9l T1.1e.1d.m9l T1.1e.1e.m9l T1.1e.1f.m9l T1.1e.1g.m9l T1.2w.34.2p T1.2s.2p",
  "T1.2p.39 T1.2q.2p.36 T1.33.3a T1.34.2r T1.2s.31 T1.2s.31.1e T1.2s.31.1f T1.2x.39 T1.inn.jdc",
  "T1.k6l.gp8 T1.hlz.l7n T1.k5q.lh7 T1.kkq.irz.fmi.ny6 T1.34.2p T1.32.2p T1.qk.2p T1.31.2p",
  "T1.2z.2p T1.2z.2q T1.31.2q T1.2v.2q T1.2r.2p.30 T1.2z.2r.2p.30 T1.34.2u T1.32.2u T1.qk.2u",
  "T1.qk.2v T1.31.2v T1.2z.2v T1.2w.3e T1.2z.2w.3e T1.31.2w.3e T1.2v.2w.3e T1.38.2w.3e T1.qk.30",
  "T1.31.30 T1.2s.30 T1.2z.30 T1.2u.31 T1.32.31 T1.qk.31 T1.31.31 T1.2r.31 T1.2z.31 T1.31.31.1e",
  "T1.2r.31.1e T1.31.1e T1.2z.31.1e T1.31.31.1f T1.2r.31.1f T1.31.1f T1.2z.31.1f T1.31.6qd.37",
  "T1.31.6qd.37.1e T1.34.2p T1.2z.34.2p T1.31.34.2p T1.2v.34.2p T1.36.2p.2s T1.36.2p.2s.6qd.37",
  "T1.36.2p.2s.6qd.37.1e T1.34.37 T1.32.37 T1.qk.37 T1.31.37 T1.34.3a T1.32.3a T1.qk.3a T1.31.3a",
  "T1.2z.3a T1.31.3a T1.34.3b T1.32.3b T1.qk.3b T1.31.3b T1.2z.3b T1.31.3b T1.2z.qx T1.31.qx X1",
  "T1.2q.35 T1.2r.2r T1.2r.2s T1.2r.6qd.2z.2v X1 T1.2s.2q T1.2v.3d T1.2w.2p T1.2w.34 T1.2x.32",
  "T1.2z.2z T1.2z.31 T1.2z.38 T1.30.31 T1.30.32 T1.30.33.2v T1.30.3c T1.31.2q T1.31.2x.30",
  "T1.31.33.30 T1.34.2w X1 T1.34.34.31 T1.34.36 T1.37.36 T1.37.3a T1.3b.2q T1.3a.6qd.31",
  "T1.2p.6qd.31 T1.1d.k4l T1.1e.k4l T1.1f.k4l T1.1g.k4l T1.1h.k4l T1.1i.k4l T1.1j.k4l T1.1k.k4l",
  "T1.1l.k4l T1.1d.1c.k4l T1.1d.1d.k4l T1.1d.1e.k4l T1.1d.1f.k4l T1.1d.1g.k4l T1.1d.1h.k4l",
  "T1.1d.1i.k4l T1.1d.1j.k4l T1.1d.1k.k4l T1.1d.1l.k4l T1.1e.1c.k4l T1.1e.1d.k4l T1.1e.1e.k4l",
  "T1.1e.1f.k4l T1.1e.1g.k4l T1.1e.1h.k4l T1.1e.1i.k4l T1.1e.1j.k4l T1.1e.1k.k4l T1.1e.1l.k4l",
  "T1.1f.1c.k4l T1.1f.1d.k4l T1.2v.2p.30 Km8d X3 K1j X9 K9o Xk A18 U1.1 Kj As D1.w2a D1.w29 K2i",
  "X8 Ky Ac U1.1 K3 A1q D1.1 K8 A4 D1.r9g A8 U1.1 K4 U1.1 K1 D1.wmg K2 U1.1 K1 U1.1 K3 Ak D1.wn8",
  "D1.wnj D1.wnf D1.wn5 D1.wn8 K1 D1.wlu D1.wmi D1.wlx U1.ps Ag D1.1c D1.wn7 D1.raw A4 D1.wo7 Ag",
  "D1.wu9 Xk D1.x32 D1.x3j D1.x3h D1.x37 U1.1 K2 D1.wy9 D1.wx2 K1f X3 Ka X6 K1k X8 K1y X8 Kc X6",
  "K38 Xb Ku X3 K26 X1 Kb X4 Kx X1 K1j X9 Ke X2 Ka X2 K2v Xo Ks Xa K6 X2 K6 X2 K6 X9 K7 X1 K7 X1",
  "K18 D1.tx D1.12 D1.xdf D1.d K9 D1.xcs K2 X4 D28.tzk K1a X2 Ka X6 K8mc Xc Kn X4 K1d X6is",
  "D1.lh4 D1.sul D1.kzc D1.ldn D1.rar D1.xqr D1.wm9 T2.vj0 D1.vjs D1.ke1 D1.was D1.vk4 D1.tuf",
  "D1.pt1 D1.o0a D1.moh D1.mdz D1.m56 D1.kn8 D1.s9e D1.rne D1.qwt D1.qbd D1.n2z D1.khb D1.isp",
  "D1.xp5 D1.wpz D1.s2h D1.qo3 D1.mpe D1.hz6 D1.us1 D1.r3r D1.ms6 D1.m2o D1.tp8 D1.nke D1.mbs",
  "D1.uhq D1.suq D1.rls D1.qi7 D1.km6 D1.xif D1.x2v D1.wup D1.tbg D1.s4e D1.qoy D1.pqk D1.nxv",
  "D1.mr3 D1.moq D1.l6w D1.jd2 D1.iiy D1.i0w D1.pf3 D1.p8d D1.of1 D1.n79 D1.k6z D1.hxd D1.lt7",
  "D1.voj D1.ugv D1.oo4 D1.nuv D1.qn8 D1.pdp D1.lfq D1.jf6 D1.voy D1.uzt D1.sah D1.rjn D1.rb3",
  "D1.oio D1.obd D1.jk6 D1.ww0 D1.nuw D1.x2w D1.x3d D1.p4q D1.oex D1.n6v D1.jj8 D1.lp6 D1.tqk",
  "D1.sbe D1.lsv D1.xt1 D1.v3s D1.ua6 D1.qfu D1.q2a D1.wuk D1.pd5 D1.xie D1.ud9 D1.xui D1.rrw",
  "D1.t81 D1.ojs D1.wq0 D1.vta D1.prg D1.n51 D1.lvp D1.rzq D1.kw1 D1.ru2 D1.tpx D1.nf3 D1.tlh",
  "D1.q35 D1.xqh D1.x73 D1.x4g D1.smx D1.olw D1.nil D1.luz D1.khb D1.wwa D1.wn2 D1.vm6 D1.uja",
  "D1.t6m D1.r5y D1.pcr D1.jq1 D1.isd D1.hyp D1.hx7 D1.wz3 D1.szp D1.s2d D1.kyz D1.umy D1.u0v",
  "D1.txs D1.tfb D1.rcf D1.qx6 D1.qa3 D1.p8r D1.of6 D1.nxk D1.l0y D1.n1n D1.ktz D1.k7l D1.x39",
  "D1.wze D1.wkh D1.r13 D1.mam D1.lx3 D1.ul5 D1.ucu D1.tnt D1.s1j D1.ors D1.qia D1.xqc D1.w4w",
  "D1.v5v D1.usx D1.uc0 D1.qgr D1.qbp D1.o45 D1.nze D1.kfx D1.ji4 D1.jfv D1.ja4 D1.xm2 D1.pag",
  "D1.kjn D1.jk0 D1.u6w D1.xtg D1.xcx D1.v66 D1.v3y D1.t9h D1.se5 D1.quq D1.pz3 D1.n2e D1.ksn",
  "D1.htj D1.t31 D1.jo8 D1.x1a D1.swd D1.st2 D1.rrd D1.rhr D1.qf7 D1.q5w D1.pk3 D1.on3 D1.j8y",
  "D1.x9g D1.tyc D1.jmj D1.xih D1.uyk D1.rn0 D1.l2l D1.uh9 D1.u51 D1.ssj D1.qj8 D1.jme D1.x4k",
  "D1.wr3 D1.v3u D1.t71 D1.syb D1.soq D1.rum D1.qfy D1.q2r D1.o6l D1.mc8 D1.mbr D1.kkd D1.jk8",
  "D1.wx8 D1.rhu D1.wr4 D1.qvy D1.qc7 D1.mwm D1.jm6 D1.ihn D1.i1g D1.swt D1.roq D1.npq D1.p4c",
  "D1.p20 D1.orr D1.qpm D1.r4y D1.lus D1.xtp D1.ngo D1.x51 D1.x6h D1.uor D1.tv3 D1.oq5 D1.vb3",
  "D1.rtz D1.t3m D1.l3g D1.mgs D1.jp8 D1.m7z D1.uns D1.xcc D1.wgd K2 D1.vxy K1 D1.t5q K2 D1.x87",
  "D1.qng D1.pxp D1.pgc D1.pff D1.pf9 D1.pe4 D1.jie D1.orj D1.o69 K1 D1.mxa K1 D1.lyi K2 D1.kx9",
  "D1.krt K3 D1.j7f D1.j73 D1.j5w D1.i9l D1.ksw D1.jnc D1.xoi D1.xfu D1.xd1 D1.x2i D1.x1s D1.wys",
  "D1.wih D1.wfl D1.wcw D1.vzt D1.vwy D1.v6f D1.v66 D1.ucp D1.u6u D1.u5t D1.u32 D1.tf6 D1.tb4",
  "D1.t6a D1.ssf D1.rta D1.ros D1.rhh D1.r16 D1.qvy D1.qi0 D1.pmi D1.phq D1.phg D1.phi D1.phb",
  "D1.ph6 D1.ph0 D2.pfp D1.pas D1.p90 D1.p06 D1.okj D1.ojz D1.oig D1.oa0 D1.o5y D1.nsf T2.prt",
  "D1.nbc D1.mds D1.ma3 D1.m01 D1.lyi D1.ln5 D1.llp D1.l2o D1.kz3 D1.jnp D1.jfu D1.je7 D1.ueu",
  "U1.1sw2 D1.nrp X2 D1.y16 D1.xbw D1.xe2 D1.xrn D1.xf3 D1.xdh D1.x4f D1.x31 D1.wkb D1.wmc",
  "D1.wkh D1.wih D1.w0y D1.vyi D1.vui D1.vu3 D1.vmm D1.vh5 D1.ur4 D1.uqy D1.umz D1.ul4 D1.ucu",
  "D1.u9l D1.ubk D1.u7v D1.u96 D1.u55 D1.u3c D1.ts9 D1.tpu D1.tod D1.th6 D1.t99 D1.t4r D1.t4o",
  "D1.t32 D1.s9o D1.s7w D1.rx2 D1.rlp D1.rm6 D1.rjs D1.rct D1.r3i D1.pva D1.qy1 D1.quo D1.qra",
  "D1.qi8 D1.qe4 D1.qco D1.q6f D1.q6e D1.q1o D1.q18 D1.q0k D1.py7 D1.pyi D1.pnj D1.pa3 D1.p2l",
  "D1.oxf D1.or8 D1.on0 D1.odv D1.o8d D1.nkx D1.ngl D1.mrg D1.met D1.mcx D1.mci D1.m4a D1.m2q",
  "D1.m40 D1.m2j D1.m2n D1.m35 D1.m12 D1.lyu D1.lo9 D1.l8q D1.l01 D1.krv D1.klr D1.jt6 D1.jqc",
  "D1.jn6 D1.jji D1.jij D1.ji8 D1.jgx D1.iwr D1.i0i U1.1njv U1.1njo U1.1ptw D1.11rp D1.10vv",
  "D1.10uz U1.1vuc U1.1xx6 U1.24n0 D1.i39 D1.i17 X12 T1.2u.2u T1.2u.2x T1.2u.30 T1.2u.2u.2x",
  "T1.2u.2u.30 T2.37.38 Xc T1.12s.12u T1.12s.12d T1.12s.12j T1.132.12u T1.12s.12l X5 T1.15l.14k",
  "K1 T1.16a.14n D1.1cfy D1.1cgh D2.1cgf D3.1cg9 D1.1cfz D1.1cfy D1.1dku T1.161.14x T1.161.14y",
  "T1.161.14s.14x T1.161.14s.14y T1.15c.14n T1.15c.14o T1.15c.14s T1.15d.14s T1.15e.14s",
  "T1.15f.14s T1.15g.14s T1.15h.14s T1.15i.14s X1 T1.15k.14s T1.15l.14s T1.15m.14s T1.15n.14s",
  "T1.15o.14s X1 T1.15q.14s X1 T1.15s.14s T1.15t.14s X1 T1.15v.14s T1.15w.14s X1 T1.15y.14s",
  "T1.15z.14s T1.160.14s T1.161.14s T1.162.14s T1.15h.14p T1.15d.14v T1.15n.14v T1.15w.14v",
  "T1.15c.15o T2.19t T4.1a3 T4.1a6 T4.1a8 T4.1a2 T4.1a7 T4.1a1 T4.1b8 T4.1ba T4.1ac T4.1ab",
  "T4.1ae T4.1af T2.1al T2.1ak T2.1am T2.1ag T2.1aw T2.1ap T4.1bd T4.1bj T4.1bn T4.1bl T2.1bu",
  "T4.1bv T2.1c0 T4.1c1 T4.1by T2.1ci T2.1cj Kx T4.1bh T2.1c7 T2.1c6 T2.1c8 T1.1c7.19w T2.1cb",
  "T2.1c5 T2.1c9 T4.1cg T2.18p T2.17q.17r T2.17q.1cl T2.17q.18o T2.17q.1c7 T2.17q.1c6 T2.17q.1c8",
  "T3.17q.1cg T3.17q.18p T4.1cc T1.17q.17w T1.17q.17x T1.17q.18l T1.17q.18p T1.17q.18q",
  "T1.17s.17w T1.17s.17x T1.17s.17y T1.17s.18l T1.17s.18p T1.17s.18q T1.17u.17w T1.17u.17x",
  "T1.17u.17y T1.17u.18l T1.17u.18p T1.17u.18q T1.17v.17w T1.17v.18l T1.17v.18p T1.17v.18q",
  "T1.17w.17x T1.17w.18l T1.17x.17w T1.17x.18l T1.17y.17w T1.17y.17x T1.17y.18l T1.183.17w",
  "T1.183.17x T1.183.17y T1.183.18l T1.185.17x T1.185.18l T1.186.17w T1.186.17x T1.186.17y",
  "T1.186.18l T1.187.17x T1.187.18l T1.188.18l T1.189.17w T1.189.18l T1.18a.17w T1.18a.18l",
  "T1.18h.17w T1.18h.17x T1.18h.17y T1.18h.18l T1.18h.18p T1.18h.18q T1.18i.17x T1.18i.18l",
  "T1.18i.18p T1.18i.18q T1.18j.17r T1.18j.17w T1.18j.17x T1.18j.17y T1.18j.18k T1.18j.18l",
  "T1.18j.18p T1.18j.18q T1.18k.17w T1.18k.17x T1.18k.17y T1.18k.18l T1.18k.18p T1.18k.18q",
  "T1.18l.17w T1.18l.17x T1.18l.17y T1.18l.18l T1.18l.18p T1.18l.18q T1.18m.17w T1.18m.17x",
  "T1.18m.17y T1.18m.18l T1.18m.18p T1.18m.18q T1.18n.17w T1.18n.18l T1.18n.18p T1.18n.18q",
  "T1.18q.17w T1.18q.17x T1.18q.17y T1.18q.18l T1.18q.18p T1.18q.18q T1.180.19s T1.181.19s",
  "T1.18p.19s T1.w.18s.18x T1.w.18t.18x T1.w.18u.18x T1.w.18v.18x T1.w.18w.18x T1.w.18x.19s",
  "T1.17q.181 T1.17q.182 T1.17q.18l T1.17q.18m T1.17q.18p T1.17q.18q T1.17s.181 T1.17s.182",
  "T1.17s.18l T1.17s.18m T1.17s.18p T1.17s.18q T1.17u.181 T1.17u.182 T1.17u.18l T1.17u.18m",
  "T1.17u.18p T1.17u.18q T1.17v.181 T1.17v.182 T1.17v.18l T1.17v.18m T1.17v.18p T1.17v.18q",
  "T1.18h.18p T1.18h.18q T1.18i.18p T1.18i.18q T1.18j.17r T1.18j.18k T1.18j.18l T1.18j.18p",
  "T1.18j.18q T1.18k.18l T1.18k.18p T1.18k.18q T1.18l.17r T1.18l.18l T1.18m.181 T1.18m.182",
  "T1.18m.18l T1.18m.18m T1.18m.18p T1.18m.18q T1.18p.19s T1.18q.181 T1.18q.182 T1.18q.18l",
  "T1.18q.18m T1.18q.18p T1.18q.18q T1.17q.17w T1.17q.17x T1.17q.17y T1.17q.18l T1.17q.18n",
  "T1.17s.17w T1.17s.17x T1.17s.17y T1.17s.18l T1.17s.18n T1.17u.17w T1.17u.17x T1.17u.17y",
  "T1.17u.18l T1.17u.18n T1.17v.18l T1.17w.17x T1.17w.18l T1.17x.17w T1.17x.18l T1.17y.17w",
  "T1.17y.18l T1.183.17w T1.183.17x T1.183.17y T1.183.18l T1.185.17x T1.185.17y T1.185.18l",
  "T1.186.17w T1.186.17x T1.186.17y T1.186.18l T1.187.17x T1.188.18l T1.189.17w T1.189.18l",
  "T1.18a.17w T1.18a.18l T1.18h.17w T1.18h.17x T1.18h.17y T1.18h.18l T1.18i.17x T1.18i.18l",
  "T1.18j.17w T1.18j.17x T1.18j.17y T1.18j.18k T1.18j.18l T1.18k.17w T1.18k.17x T1.18k.17y",
  "T1.18k.18l T1.18k.18n T1.18l.17w T1.18l.17x T1.18l.17y T1.18l.18l T1.18m.17w T1.18m.17x",
  "T1.18m.17y T1.18m.18l T1.18m.18n T1.18n.17w T1.18n.18l T1.18n.19s T1.18q.17w T1.18q.17x",
  "T1.18q.17y T1.18q.18l T1.18q.18n T1.17q.18l T1.17q.18n T1.17s.18l T1.17s.18n T1.17u.18l",
  "T1.17u.18n T1.17v.18l T1.17v.18n T1.183.18l T1.183.18n T1.184.18l T1.184.18n T1.18j.18k",
  "T1.18j.18l T1.18k.18l T1.18m.18l T1.18m.18n T1.18q.18l T1.18q.18n T1.18g.18u.18x",
  "T1.18g.18v.18x T1.18g.18w.18x T1.187.18p T1.187.18q T1.189.18p T1.189.18q T1.18a.18p",
  "T1.18a.18q T1.183.18p T1.183.18q T1.184.18p T1.184.18q T1.17x.18p T1.17x.18q T1.17w.18p",
  "T1.17w.18q T1.17y.18p T1.17y.18q T1.185.18p T1.185.18q T1.186.18p T1.186.18q T1.184.17w",
  "T1.184.17x T1.184.17y T1.184.18l T1.184.181 T1.183.181 T1.185.181 T1.186.181 T1.187.18p",
  "T1.187.18q T1.189.18p T1.189.18q T1.18a.18p T1.18a.18q T1.183.18p T1.183.18q T1.184.18p",
  "T1.184.18q T1.17x.18p T1.17x.18q T1.17w.18p T1.17w.18q T1.17y.18p T1.17y.18q T1.185.18p",
  "T1.185.18q T1.186.18p T1.186.18q T1.184.17w T1.184.17x T1.184.17y T1.184.18l T1.184.181",
  "T1.183.181 T1.185.181 T1.186.181 T1.184.17w T1.184.17x T1.184.17y T1.184.18l T1.183.18n",
  "T1.184.18n T1.187.18l T1.183.17w T1.183.17x T1.183.17y T1.184.17w T1.184.17x T1.184.17y",
  "T1.187.18l T1.188.18l T2.17r.18r Ki T1.17u.17w.18l T2.17u.17x.17w T1.17u.17x.18l",
  "T1.17u.17y.18l T1.17u.18l.17w T1.17u.18l.17x T1.17u.18l.17y T2.17w.18l.17x T1.17x.18l.18q",
  "T1.17x.18l.18p T1.183.17x.17w T1.183.17w.17x T1.183.17w.18p T2.183.18l.17x T1.183.18l.17w",
  "T2.183.18l.18l T2.185.17x.17x T1.185.18l.18l T2.184.17x.18l T1.184.17w.18q T2.184.18l.17y",
  "T2.184.18l.18l T1.186.17x.18p T2.186.17y.18l T2.187.18l.17x T1.187.18l.18l T1.187.18l.18q",
  "T1.189.17w.18l T2.189.18l.18l T1.189.18l.18p T1.18a.18l.18l T1.18a.18l.18q T1.18a.18l.18p",
  "T2.18h.17y.18l T1.18i.18l.17x T1.18i.18l.18l T1.18k.17x.18l T1.18k.17x.18q T1.18k.17x.18p",
  "T2.18k.17w.17w T2.18k.17y.18l T2.18k.18l.17x T1.18l.17x.17w T1.18l.17x.18l T1.18l.17x.18q",
  "T1.18l.17w.17x T1.18l.17w.18l T1.18l.17y.17w T1.18l.17y.18l K2 T1.18l.17w.17y T1.18n.18l.17w",
  "T1.18n.18l.18l T1.18m.17x.18l T1.18m.17x.18p T2.18m.17w.18l T1.18m.17w.18p T1.18m.18l.18q",
  "T1.18m.18l.18p T2.18q.18l.18l T1.17s.17y.18q T1.17u.17w.18q T1.17u.17w.18p T1.17u.17y.18q",
  "T1.17u.17y.18p T1.17u.18l.18q T1.17u.18l.18p T1.17w.18l.18q T1.17w.17x.18p T1.17w.18l.18p",
  "T1.183.17y.18p T1.185.17x.18q T1.184.17x.18q T1.186.17x.18q T1.18k.17w.18q T1.18k.18l.18q",
  "T1.18q.17x.18q T1.18q.17w.18q T1.18q.18l.18q T1.18l.18l.18q T1.18i.18l.18q T1.18m.17x.18q",
  "T1.18i.18l.17x T1.18k.17x.18l T1.189.18l.18q T1.18j.18l.18q T1.18m.17w.17x T1.18l.17y.18q",
  "T1.18k.17w.18l T1.18j.18l.18l T1.18k.17w.18l T1.18m.17w.17x T1.17w.17x.18q T1.17x.17w.18q",
  "T1.18l.17w.18q T1.18h.18l.18q T1.17s.17x.18q T1.18j.18l.18l T1.189.17w.18l T1.185.18l.18l",
  "T1.183.17y.18q T1.18m.17w.18q K8 Xw T1.185.18k.1ci T1.18i.18k.1ci T1.17r.18k.18k.18n",
  "T1.17r.18j.17s.181 T1.18l.17x.18l.17z T1.185.18k.189.18l T1.181.183.18o.18k",
  "T1.189.18k.18q.18n T1.18o.183.18k.18l T1.185.18k.18p",
  "T1.185.18k.18p.w.17r.18k.18k.18n.w.189.18k.18q.18n.w.18o.183.18k.18l",
  "T1.17w.18k.w.17w.18k.17r.18k.18n T1.181.1cc.17r.18k K3 Ig D1.1e5g D1.14pc X1 D2.1e55 D1.1e5w",
  "D1.1e53 D2.14ox X7 Kg X1 D1.17vh D1.17vj T2.2n D2.1e6l D1.1e4c D1.1e4b D2.14px D2.14q3",
  "D2.14qb D2.14qf D4.14qd K2 D1.1e5o D1.1e5n T4.w.lh T3.2n D1.1e78 D1.14r4 X2 D1.1e6x D1.1e6z",
  "D1.1e6v D1.1e7q D1.17wk D2.1e7l D1.1e5c D1.1e5b D2.14qx D1.1e7w D1.1e7u D2.1e7r D1.1e7q",
  "D1.1e7c D1.1e7b D1.1e7d X1 D1.1e6k D2.1e85 D1.1e7f X4 T1.w.18r T1.18g.18r T1.w.18s K1",
  "T1.w.18t X1 T1.w.18u T1.18g.18u T1.w.18v T1.18g.18v T1.w.18w T1.18g.18w T1.w.18x T1.18g.18x",
  "T1.w.18y T1.18g.18y D2.1d27 D2.1d28 D2.1d29 D2.1d2a D2.1d2b T3.17q T2.17r T4.17s T2.17t",
  "T4.17u T4.17v T4.17w T4.17x T4.17y T2.17z T2.180 T2.181 T2.182 T4.183 T4.184 T4.185 T4.186",
  "T4.187 T4.188 T4.189 T4.18a T4.18h T4.18i T4.18j T4.18k T4.18l T4.18m T4.18n T2.18o T2.18p",
  "T4.18q T2.18k.17m T2.18k.17n T2.18k.17p T2.18k.17r X2 I1 X1 Dw.1ecg Dq.1ebk D10.1ecg D2.168q",
  "D1.1eer D2.14ye D1.14yr D1.14ru D1.14s4 D1.14ue D1.14ud D1.14uc D1.14ub D1.14ua D1.14sp",
  "D1.14so D1.14sn D1.14to D1.14s4 D1.14un D1.14um D1.14ul D1.14uk D2.14uj D1.14ui D1.14uh",
  "D1.14ug D1.14uf D1.14ue D1.14ud D1.14uc D1.14ub D1.14ua D1.14u9 D1.14u8 D1.14u6 D1.14u5",
  "D1.14u4 D6.14u3 D1.14u1 D1.14tz D1.14tx D1.14tv D5.14tt D1.14ts D1.14tr D6.14tq D1.14tp",
  "D1.14tm D2.14w5 I1 D2.1b4x D1.1b09 D1.1b4y D2.1b09 D3.1b50 D6.1b0a D1.1b4m D3.1b57 D1.1b4j",
  "Da.1b58 X3 D6.1b35 X2 D6.1b37 X2 D6.1b39 X2 D3.1b3b X3 D2.1ef2 D1.1eeu T1.w.lg D1.1ef2",
  "D1.1ef4 D1.183h X1 D1.178m D4.17x5 D1.174d D1.1737 Xh Kc X1 Kq X1 Kj X1 K2 X1 Kf X2 Ke Xy K3f",
  "X5 K3 X4 K19 X3 K2g X1 Kd X3 K1 X1b K1a X3m Kt X3 K1d Xf Ks X4 K10 X9 Ku X5 K17 X5 Ku X1 K11",
  "X4 Ke X16 U14.14 K3a X2 Ka X6 U10.14 X4 K10 X4 K14 X8 K1g Xb K1 Ub.13 X1 Uf.13 X1 U7.13 X1",
  "U2.13 X1 Kb X1 Kf X1 K7 X1 K2 X3 K1g Xc K8n X9 Km Xa K8 Xo K1 D2.1fht D1.1fvh D1.1fjf D1.1fle",
  "X1 D1.1fj8 D1.i76 D1.1fj8 D1.1fja D2.1flh D1.1a7w D1.1fli D1.1fld D1.1fjb D1.1fl9 D1.1flc",
  "D1.1flf D1.1fjt D1.1fu6 D1.1fju D1.1flc D1.1fkk D2.1fjj D1.1flb U1.16js D1.iz3 D1.1flc",
  "U1.16jq D1.1fki U1.16jp D1.1fvu D2.1fl9 D1.1fzo D1.1fl8 U1.16jl D2.1fl7 D1.1fl6 D1.1fk3",
  "D1.1fk6 D1.i86 D1.1fk7 D1.1fl3 D1.17b3 X1 D1.1fkz D2.1fki D1.1fkt D3.1fqu U1.16j5 U1.16jo X1x",
  "K6 X2 K1 X1 K18 X1 K2 X3 K1 X2 Kn X1 K20 X8 K9 X1c Kj X1 K2 X5 Kx X3 Kr X5 Kr X12 K1k X4 Kk",
  "X2 K1e X1 K2 X5 K8 X1 K3 X1 Kt X2 K3 X4 Ka X7 K9 X7 K1s Xw K13 X4 Kc X9 K1i X3 Kt X2 Kr X5 Kq",
  "X7 K4 Xc K7 X28 K21 X1j U1f.1s Xd K1f X7 K1a X8 Ka X6 Kg Um.w X3 Kt X8 K2 X5s Kv X1 K16 X1 K3",
  "X2 K2 Xg K6 X8 K9 Xx K1a X8 K16 Xm Kq X12 Ks Xk Kn X9 K26 X4 K10 X9 K1q X1 K5 Xd Kp X7 Ka X6",
  "K1h X1 Ki X8 K13 X9 K2o X1 Kk Xb Ki X1 K1b X1q K7 X1 K1 X1 K4 X1 Kf X1 Kb X6 K1n X5 Ka X6 K4",
  "X1 K8 X2 K2 X2 Km X1 K7 X1 K2 X1 K5 X1 Ka X2 K2 X2 K3 X2 K1 X6 K1 X5 K7 X2 K7 X3 K5 Xb Ka X1",
  "K1 X2 K1 X1 K12 X1 Ka X1 K1 X2 K1 X1 K4 X1 Ka X1 K2 X8 K2 Xt K2k X1 K5 Xu K20 X8 Ka X4m K1i",
  "X2 K12 Xy K1x Xb Ka X6 Kd Xj K1m X6 Ka X6 Kk Xs Kr X2 Kf X4 Kn X55 K1o X2s Uw.w K1f Xc K8 X2",
  "K1 X2 K8 X1 K2 X1 Ku X1 K2 X2 Kc X9 Ka X1y K8 X2 K1a X2 Kb Xr K20 X8 K2b Xd K21 X7 Ka X2e K8",
  "X2g Ky Xe Ka X6 K9 X1 K19 X1 Ke Xa Kt X3 Kw X2 Km X1 Ke X21 K7 X1 K2 X1 K18 X3 K1 X1 K2 X1 K9",
  "X8 Ka X6 K6 X1 K2 X1 K11 X1 K2 X1 K6 X7 Ka X6 K18 X4 Ka X6u Kp X7 Kh X1 K15 X3 Kt X2d K1 Xf",
  "K1e Xd Kpn X2u K33 X1 K5 Xb K5g X218 K2r Xd Kts Xg Km Xa K32z X5 Kg7 X5a1 K1m X1c6 Kft X7 Kv",
  "X1 Ka X4 K29 X1 Ka X6 Ku X2 K6 Xa K1y Xa Ka X1 K7 X1 Kl X5 Kj Xc0 K1m X5i Uw.w K1n X5 Up.r X2",
  "Kp X18 K23 X4 K1l X7 Kh X1s K5 Xb K7 X9 K5p2 X15 Kw X2p K37 X6pp K4 X1 K7 X1 K2 X1 K83 Xf K1",
  "Xt K3 X2 K1 Xe K4 X8 Kb0 X1s4 K2z X5 Kd X3 K9 X7 Ka X2 K4 I4 X318 K5y Dq.2iyd Da.2j0g K3 X3",
  "Kc4 X6 Kn Xf Kh Xf K1a X2 Kn X9 K38 X1o K6u Xa K13 X2 K1h T1.2jx3.2jxh T1.2jx4.2jxh",
  "T1.2jx4.2jxh.2jxq T1.2jx4.2jxh.2jxr T1.2jx4.2jxh.2jxs T1.2jx4.2jxh.2jxt T1.2jx4.2jxh.2jxu Ke",
  "I8 K1s T1.2jzt.2jxh T1.2jzu.2jxh T1.2jzt.2jxh.2jxq T1.2jzu.2jxh.2jxq T1.2jzt.2jxh.2jxr",
  "T1.2jzu.2jxh.2jxr K16 Xl K1y X3e Kk Xc Kk Xc K2f X9 Kp X3r Dq.2kdb Dq.2ke1 Dq.2ker D7.2kfh X1",
  "Di.2kfh Dq.2kg7 Dq.2kgx D1.2khn X1 D2.2khn X2 D1.2khn X2 D2.2khn X2 D4.2khn X1 D8.2khn",
  "D4.2kid X1 D1.2kid X1 D7.2kid X1 Db.2kid Dq.2kj3 Dq.2kjt D2.2kkj X1 D4.2kkj X2 D8.2kkj X1",
  "D7.2kkj X1 Dq.2kl9 D2.2klz X1 D4.2klz X1 D5.2klz X1 D1.2klz X3 D7.2klz X1 Dq.2kmp Dq.2knf",
  "Dq.2ko5 Dq.2kov Dq.2kpl Dq.2kqb Dq.2kr1 Dq.2krr Dq.2ksh Dq.2kt7 Dq.2ktx Dq.2kun Dq.2kvd",
  "D1.2kqb D1.2kj2 X2 Dh.2k8n D1.2k8x D7.2k8n D1.2e9m Dh.2k9d T2.qr D6.2k9d D1.2eah D1.2k9z",
  "D1.2k9x D1.2k9w D1.2k9l D1.2k9r D1.2k9t Dh.2ka9 D1.2kaj D7.2ka9 D1.2eb8 Dh.2kaz T2.qr D6.2kaz",
  "D1.2ec3 D1.2kbl D1.2kbj D1.2kbi D1.2kb7 D1.2kbd D1.2kbf Dh.2kbv D1.2kc5 D7.2kbv D1.2ecu",
  "Dh.2kcl T2.qr D6.2kcl D1.2edp D1.2kd7 D1.2kd5 D1.2kd4 D1.2kct D1.2kcz D1.2kd1 Dh.2kdh D1.2kdr",
  "D7.2kdh D1.2eeg Dh.2ke7 T2.qr D6.2ke7 D1.2efb D1.2ket D1.2ker D1.2keq D1.2kef D1.2kel D1.2ken",
  "Dh.2kf3 D1.2kfd D7.2kf3 D1.2eg2 Dh.2kft T2.qr D6.2kft D1.2egx D1.2kgf D1.2kgd D1.2kgc D1.2kg1",
  "D1.2kg7 D1.2kg9 T2.rh X2 Da.2l5q Da.2l60 Da.2l6a Da.2l6k Da.2l6u Ki4 Xf K5 X1 Kf Xuo Kv X6 K6",
  "X5x K7 X1 Kh X2 K7 X1 K2 X1 K5 X5 D9.2m0w D3.2m0v Db.2m0u D1.2m0s D2.2m0r D1.1pz5 D1.2lwy",
  "D1.2m0m D1.2m0l D1.2lwl D1.2ly8 D1.2lxd D9.2m1t D2.2m1s D2.2m1q D1.2m1p D6.2m1o D2.2m1n",
  "D1.2lzq D1.2m1e D1.2m1g D1.2m17 D1.2lz4 D1.1q1n D1.2lz0 Xx K1 X34 K19 X3 Ke X2 Ka X4 K2 X8w",
  "Kv Xh K1m X5 K1 Xcw K16 X5y K17 X4 K1 X5c Kv X1 Km X8 K2 X68 K7 X1 K4 X1 K2 X1 Kf X1 K5h X2",
  "Kg X15 Uy.y K16 X4 Ka X4 K2 Xlt K1w X24 K1p X5e D2.2od5 D1.2od2 D1.2od0 X1 D1.2ocd D1.2od0",
  "D1.2od6 D1.2ocx D1.2ocf D4.2ocn D1.2od7 D1.2od2 D1.2ocv D1.2od8 D1.2ocw D1.2ode D1.2odc",
  "D2.2odn D1.2odl D1.2odk D1.2odf D1.2ode D1.2odd D1.2oby D1.2o9v D1.2oal D1.2oc0 X1 D1.2oe1",
  "D1.2ody X1 D1.2od9 X2 D1.2oe2 X1 D1.2odb D4.2odj D1.2oe3 D1.2ody D1.2odr D1.2oe4 D1.2ods X1",
  "D1.2oe8 D2.2oej D1.2oeh X1 D1.2oeb X1 D1.2oe9 X6 D1.2oeu X4 D1.2oey X1 D1.2oe7 X1 D1.2oef X1",
  "D1.2oef D1.2oez D1.2oeu X1 D1.2of0 D1.2oeo X1 D1.2of4 X2 D1.2ofd X1 D1.2of7 X1 D1.2of5 X1",
  "D1.2obn X1 D1.2ods X1 D1.2oft D1.2ofq X1 D1.2of1 X2 D1.2ofu D1.2ofl D1.2of3 D1.2ofb X1",
  "D2.2ofb D1.2ofv D1.2ofq D1.2ofj D1.2ofw D1.2ofk X1 D1.2og0 D2.2ogb D1.2og9 X1 D1.2og3 D1.2og2",
  "D1.2og1 D1.2oem X1 D1.2od9 X1 D2.2ogp D1.2ogm D1.2ogk D2.2ofx D1.2ogk D1.2ogq D1.2ogh D1.2ofz",
  "X1 D3.2og7 D1.2ogr D1.2ogm D1.2ogf D1.2ogs D1.2ogg D1.2ogy D1.2ogw D2.2oh7 D1.2oh5 D1.2oh4",
  "D1.2ogz D1.2ogy D1.2ogx X5 D1.2ohl D1.2ohi D1.2ohg X1 D1.2ogt D1.2ohg D1.2ohm D1.2ohd D1.2ogv",
  "X1 D3.2oh3 D1.2ohn D1.2ohi D1.2ohb D1.2oho D1.2ohc D1.2ohu D1.2ohs D2.2oi3 D1.2oi1 D1.2oi0",
  "D1.2ohv D1.2ohu D1.2oht X1g K2 X7i K18 X4 K2s Xc Kf X2 Kf X1 Kf X1 K11 Xb T1.1c.18 T1.1d.18",
  "T1.1e.18 T1.1f.18 T1.1g.18 T1.1h.18 T1.1i.18 T1.1j.18 T1.1k.18 T1.1l.18 K5 T1.14.2p.15",
  "T1.14.2q.15 T1.14.2r.15 T1.14.2s.15 T1.14.2t.15 T1.14.2u.15 T1.14.2v.15 T1.14.2w.15",
  "T1.14.2x.15 T1.14.2y.15 T1.14.2z.15 T1.14.30.15 T1.14.31.15 T1.14.32.15 T1.14.33.15",
  "T1.14.34.15 T1.14.35.15 T1.14.36.15 T1.14.37.15 T1.14.38.15 T1.14.39.15 T1.14.3a.15",
  "T1.14.3b.15 T1.14.3c.15 T1.14.3d.15 T1.14.3e.15 T1.9hw.37.9hx D1.2q4o D1.2q4a T1.2r.2s",
  "T1.3b.3e K1 Dq.2q4v T1.2w.3a T1.31.3a T1.37.2s T1.37.37 T1.34.34.3a T1.3b.2r Kq T1.31.2r",
  "T1.31.2s T1.31.36 Kz T1.2s.2y Kt X1k Kq T1.9kr.9jf T1.9mb.9mb D1.2gr1 Xd D1.26yt D1.28ca",
  "D1.29ty D1.2gr0 D1.2avc D1.28sb D1.1z5f D1.28ry D1.2aus D1.267t D1.241l D1.26bm D1.2a4v",
  "D1.27ip D1.2aa9 D1.26b3 D1.2a6b D1.21nj D1.239f D1.1ym2 D1.28tw D1.29rg D1.24gi D1.26xe",
  "D1.26s3 D1.2azt D1.2azl D1.1xwh D1.27uu D1.2ayo D1.29tn D1.26ug D1.1ygw D1.26zi D1.22ep",
  "D1.227t D1.29t8 D1.24l1 D1.2625 D1.2627 D1.239h D1.2a4n D1.29hg D1.1xpq X4 T1.9hw.kdo.9hx",
  "T1.9hw.fex.9hx T1.9hw.fik.9hx T1.9hw.i2x.9hx T1.9hw.m9l.9hx T1.9hw.jf7.9hx T1.9hw.nh3.9hx",
  "T1.9hw.gd9.9hx T1.9hw.k0n.9hx X7 D1.27jt D1.29uq Xe K6 X4a Krd X3 Kh X3 Kd X3 K62 X6 Kc X4 K1",
  "Xf Kc X4 K1k X8 Ka X6 K14 X8 Ku X2 Kc X4 K2 Xe K9 X13 K9k X8 Ke X2 Kd X3 Kb X3 K1l X1 K1 X4",
  "Kg X2 Kc X4 Ka X7 K43 X1 K2k Da.2sao K1 Xsl Kwyo Xw K3dq X2 K4ge X2 K5rl Xf Kha X1wi D1.3qo3",
  "D1.3qo9 D1.3qo1 D1.1crl D1.3qg4 D1.3qdz D1.3qdn D1.3qbp D1.3q8e D1.3q7k D1.3q5f D1.3q64",
  "D1.3vqm D1.1brn D1.3q2p D1.3q2j D1.3q24 D1.3q1m D1.1bzq D1.3vq2 D1.3q25 D1.3q14 D1.1byj",
  "D1.3q0w D1.3q0k D1.3qkt D1.3q0e D1.3q06 D1.k71 D1.3pyg D1.3py3 D1.3vpc D1.3pwl D1.3pwb",
  "D1.3pv4 D1.3pv0 D1.3vnz D1.3psu D1.3pst D1.3ps3 D1.3pri D2.3pr8 D1.3pqs D1.3ppf D1.3pp8",
  "D1.3pp0 D1.3poc D1.3po3 T3.ghr D1.1b0o D1.3jyd D1.3pm4 D1.3plk D1.1as5 D1.3pla D1.3pl5",
  "D1.3pkl D1.3pge D1.3pj9 D1.3piu D1.3phz D1.3pge D1.3pe3 D1.3pde D1.3pbk D1.3pb5 T2.gw4",
  "D1.3p9q D1.3p99 D1.3p92 D1.3p8o D1.3oz9 D1.3p6u D1.3oza D1.3p4t D1.3p3v D1.3pzd D1.3omb",
  "D1.3ouc D1.3otb D1.3osn D1.3owa D1.3oro D1.3orq D1.3ooc D1.18xh D1.3omg D1.3omc D1.3oly",
  "D1.3olf D1.3ol8 D1.3ojh D1.18l4 D1.18jb D1.3ofq D1.3oeg D1.3oe5 D1.3ogd D1.3ocg D1.3vcp",
  "D1.3vcc D1.3o81 T2.i0u D1.17z8 D1.3o2y D1.3o2e D1.3o20 D1.3o1p D1.17q1 D1.3o1f D1.3o19",
  "D1.3ndt D1.3o0j D1.3v91 D1.3nyv D1.3nyi D1.3nw9 D1.3nxp D1.176f D1.3nsp D1.176f D1.3nrk",
  "D1.3nro D1.3nr8 D2.3nog D1.3v4k D1.3nnr D1.3nml D1.3nm1 D1.3nku D1.3v3a D1.16h2 D1.3v2m",
  "D1.3niz D1.3nix D1.3niv D1.3nic D1.gsd D1.3ngy T2.3035 D1.3gk2 T2.isi D1.3v0v D1.1333 D1.try",
  "D1.3nef D1.3ne7 D1.3v08 D1.3ncy D1.3nbk D1.3nbb D1.3nae D1.3n6n D1.3uxz D1.3uyu D1.3n67",
  "D1.15g0 D1.3n4u D1.3n1a D1.3n17 D1.3n16 D1.3n19 D1.3n00 D1.3mzh D1.3myi D1.3myx D1.3myn",
  "D1.3mxd D1.3mwu D1.3mwr D1.3mw2 D1.3mvs D1.3mtz D1.3mro D1.3mqq D1.3mnb D1.14mk D1.3mnw",
  "D1.3mpq D1.3mmr D1.3mm1 D1.3mjd D1.14gd D1.3mhp D1.3mkb D1.3ml4 D1.3us4 D1.3mfu D1.3mfa",
  "D1.3meg D1.3mfj D1.3uqj D1.3m9l D1.3m8t D1.13nk D1.3m5k D1.3lxw D1.3m2s D1.3ulx D1.3m0u",
  "D1.3umg D1.3unh D1.3q68 D1.3q66 D1.3lxw D1.3m0p D1.3gvd D1.3svy D1.3lxd D1.3lxa D1.3lx5",
  "D1.3lvh D1.3lvt D1.12xm D1.3ul1 D1.3lr9 D1.3luj D1.3lov D1.3lnh D1.12t2 D1.3lna D1.3lqe",
  "D1.3ljm D1.3uiy D1.3lie D1.3lfq D1.3lds D1.3l8j D1.12dl D1.3l76 D1.3ufq D1.3l5a D1.11zd",
  "D1.3l3x D1.3uec D1.3l35 D1.3l1x D2.3l17 D1.11m2 D1.17fx D1.11j3 D1.3kx8 D1.116n D1.3ku5",
  "D1.3kts D1.3kwn D1.3krt D1.3kqq D1.3kp6 D1.3kqp D1.3kpm D1.3kp8 D1.3kow D1.1148 D1.3kr7",
  "D1.3kk9 D1.3kij D1.3u8n D1.3kg0 D1.3kg5 D1.10sc D1.3klx D1.3kbl D1.10oi D1.10n7 D1.3k98",
  "D1.3k62 D1.3k6u D1.3k6y D1.3u68 D1.3k5p D1.3k4b D1.3k4i D1.3k31 D1.1c6u D1.3jyv D1.103e",
  "D1.3jwi D1.zuc D1.3jso D1.3jsc D1.3jrm D1.zdn D1.3jqc D1.3jps D1.z5d D1.yz7 D1.3jji D1.3jj2",
  "D1.3tz2 D1.3jie T2.ce0 D1.3jdz D1.3jdf D1.3jcv D1.3jcc D1.3jag D1.3tw8 D1.3j80 D1.y67 D1.3j7c",
  "D1.y3p D1.3j60 D1.16l6 D1.3j1m D1.xi2 D1.xhg D1.xdl D1.3tqa D1.3tpz D1.3ivg D1.x8u D1.x8w",
  "D1.x7u D1.x75 D2.3iuf D1.3iug D1.3ita D1.3tow D1.3irj D1.3tol D1.3tme D1.wmo D1.3im8 D1.3ikj",
  "D1.3iis D1.3tke D1.w8c D1.3if1 D1.w56 D1.w40 D1.3idj D1.3ib0 D1.3tih D1.3i8p D1.3i8g D1.3i8c",
  "D1.vkw T2.3b1j D1.3i41 D1.3tcu D1.v5i D1.3hy4 D1.3hy2 D1.3tbx D1.uzp D1.3hqs D1.3t8n D1.3hq8",
  "D1.3hqe D1.3hpm D1.ued D1.3hmx D1.3t64 D1.3hk7 D1.3hil D1.3hgr D1.3t4t D1.tvu D1.tv0 D1.3t3v",
  "D1.tr0 D1.3h8c D1.to9 D1.3h7n D1.3h4v D1.3h4l D1.tcx D1.tax D1.3h25 D1.t7a D1.3h1r D1.134x",
  "D1.3t0s D1.3h00 D1.3gxs D1.3szd D1.3gw7 D1.3oi9 D1.stc D1.ssz D1.133q D1.133i D1.3gqy D1.3gqw",
  "D1.3e27 D1.3swz D1.3gn2 D1.3gn9 D1.3gms D1.3q3j D1.3gma D1.3gm9 D1.3gm0 D1.3gkw D1.s4b",
  "D1.3gkz D1.3gjg D1.3ghj D1.3gfi D1.3gjd D1.3gf4 D1.3gdz D1.3gaw D1.3gi5 D1.3gev D1.3geu",
  "D1.3gef D1.rxq D1.rp6 D1.rtd D1.3ssc D1.3g6v D1.3g6u D1.3g5w D1.qg1 D1.3g3s D1.rcx D1.3sr5",
  "D1.3sr2 D1.r9b D1.r1b D1.3sqv D1.3fxf D1.3fx4 D1.3fwu D1.3fwt D1.3fv2 D1.3fw0 D1.3fsb D1.3ftk",
  "D1.3fpe D1.3fro D1.3fpu D1.3fp4 D1.3so8 D1.3fmn D1.3fls D1.3snd D1.3fj7 D1.3fj5 D1.py6",
  "D1.3ffz D1.3fft D1.3slv D1.3ff3 D1.3w27 D1.pi5 D1.pd2 D1.3si7 D1.3shz D1.3f3j D1.3f1f D1.3ex3",
  "D1.3erh D1.oq3 D1.3ep5 D1.3eok D1.3em3 D1.3ejk D1.o89 D1.1brp D1.3ehb D1.3ehr D1.3egc D1.1blr",
  "D1.3ea2 D1.3e7b D1.mxa D1.mwk D1.3dxq D1.3dv6 D1.3dub D1.mnr D1.3du3 D1.3dm7 D2.3dht D1.3dke",
  "D1.3d9u D1.3d93 D1.lpv D1.3cyr D1.3ryy D1.3cxl D1.lfe D1.3rws D1.3cq8 D1.3o02 D1.3cnm D1.koh",
  "D1.kil D1.3rt6 D1.3rsz D1.3cii D1.k4x D1.3rre D1.k13 T2.u17 D1.3cgn D1.jt7 D1.3cbk D1.3ro0",
  "D1.3c9n D1.3c66 D1.3c5g D1.3c3t D1.3rju D1.iqh D1.3bw8 D1.3bnv D1.3bin D1.3rcv D1.3rc1",
  "D1.3bfs D1.hmq D1.3rbt D1.hl9 D1.hdx D1.hab D1.3b6i D1.3r9c D1.3b4u D1.3b4q D1.3b4k D1.3b4b",
  "D1.3b45 D1.3b35 D1.gm5 X15u K3t7 X5 K6ju Xf62u I6o X47bk"]

namespace Folding

/-- What a row of the table says of the character `offset` places into its run. -/
def ofRow (kind : Char) (numbers : List Nat) (offset : Nat) : Folding :=
  match kind with
  | 'K' => .kept
  | 'I' => .ignored
  | 'U' => .raised (numbers.headD 0)
  | 'D' => .lowered (numbers.headD 0)
  | 'T' => .spelled numbers
  | 'A' => if offset % 2 = 0 then .raised 1 else .kept
  | _ => .refused

def table : Text.Runs (Nat → Folding) := Text.Runs.read ofRow foldingLines

def of (c : Char) : Folding :=
  match table.locate? c.toNat with
  | some (offset, row) => row offset
  | none => .refused

/-- The characters of a name that the written character `c` stands for. -/
def meaning? (c : Char) : Folding → Option (List Char)
  | kept => some [c]
  | ignored => some []
  | refused => none
  | raised distance => some [Char.ofNat (c.toNat + distance)]
  | lowered distance => some [Char.ofNat (c.toNat - distance)]
  | spelled numbers => some (numbers.map Char.ofNat)

end Folding

/-- The characters that a written name stands for. -/
def fold? (written : List Char) : Option (List Char) :=
  (written.mapM fun c => (Folding.of c).meaning? c).map List.flatten

end LongPoll.Url.Domain
