import Foreman.Time.Zone
import Foreman.Text.Split

/-!
# The zone database

The host's zones as the files of its zone database, each path a zone name. A record of zone
data is `kinds|changes|rule`: kinds are an offset in seconds east and an abbreviation (`*` after
a daylight saving kind); changes are base-36 seconds since the change before, then a capital
letter naming the kind, `*k` repeating the two changes before `k` more times; the rule is kept
after the last change. Long shared runs are kept once in `pieces`, named by a marker and a
character. `posix/` holds every zone again, `right/` every zone counting leap seconds.

`ZoneDatabase.load`: the empty name and `UTC` are UTC, `Local` the host's zone. A name with
`..`, or starting with a slash or backslash, is refused; otherwise it is a path below the
database's directory, failing as opening and reading it fails; a name leading nowhere is an
unknown zone.
-/

namespace Foreman.ZoneDatabase

/-- The zone records, each written `kinds|changes|rule` with its shared pieces referred to,
separated by semicolons. -/
def recordText : String := String.join [
  "-96=F$G(kgl4B&C;-5[c12!k020*,~118!k030*,$G|-s9p1akC24aamkB1yhyoCcj$DoCcj$DoCcjvlcB69weoCci0xcB*269weoC683lcBcloeoC668xcBcloeoC1y8pcD21gem0C2fehm0]zi1e0]zjw20]zi1e0]F69vy0C&C;928=F]2t8i0Bymedb4C)w;732@p,)o!n=w[W54gb8cBafgo4rE2qx1nlC5lu(L8%gay(753c(G9idx&83i0(351mw0G253u=u9o2@d920)P8l3[Zjut)N4uy8]43rdz?k46xc(9!0D2xco40H?JG!iF!8Gkiq@P!8H#FE!jG|CET-1;933[c9332 A&E]2t8j8Bafrs(9o6mlccD)w;-192=o$G,$W,$G(kfuoBbk956oCdqe8%a&C;446=o)j(kkrwB)c;-3996%d3996^G?390Bb388(94m1rp0D&C;-374=o?3)Mwvoy(7&C;84~08470 Z&E8460 Z&E)i^fi1t5cB1j56m2C5qqlcaD)d;366=F)j(kk5wB)c;704=F)i@mersB)d;7509!c!MT[j[W054wglCkrj48lB40d$0$oB=Z_haqy$K80y%rb07$c7tk%ab07$c8jh&7a8f$c60go%a7el$0?e&Gawq?97tk@K27tk@K1?gawi)M7%iB*27%iB?gf9x80B3i0%Telu)M462%J]w2?gayd80B?g#oB7m5(Zawi)M?g*1]w1?gaqv)L=Z!S^k=Z!FD=Z!SD*3=Z!FD=Z!S)O^LD?Nbvu)L=j[1=3(Ecyq)L5an$c1jm%r12t$01w22%r25p$01sw%a2vm$K4hbhg0$2(yB*1=mB!j[V!8B(yB#u(yB!qC@r4.5.5/0)55.4/24;-182=o]Y*(P,]Y(P|-tblt9gCdi7nxgB3hu$K51k%a2znu$K2dp9&7@D8nt2%r657$c3ifx&73jp$0va0%a4qa$Ke1m%r7pp$0cnm%r3af$c2xi8=Jxqq$Kbp56%r4qa$Ke1m%r45x$0d2g%a^O$K[1&7(Ee1s)x47u(71le?a23x&8!4B_I1qy?a40g(9!0B4mo(9_Q4de(7!0B3yl&8_Q51h&8!0B_I_Q5re(7!6B2vp&825s@Q%oC!6B2iq(7=l7?F^Akao0!G7?F^A7?F^Y#wB^Y#wB^Aka(7_Qg7?F@b5;@T^M)o,$4,)o$d]m)x91ve$K!pD2vt4%T8sq?nssy$K8n6?n(yE!RC!CEk69d&8657%e3ifx(Z_Jva0%T?q2xi8)P129us0)E?b@g;-329[c$G,?3skBbk944kCdhlk%a&C;-41]5?33sBfcoa7sC&C;942=F(h,@6kcrtxwB8ve49wC6sagp0B)w;10356!c[nfzoB)w;232=F)j(kj4oB)c;-316=F$W,]Y*(P|-isdx)Mm2g0(sve$K?qfke5(Z4qa(q]t45x(xd2g%T^O(q[1(Z_Be1s&847u(L1le(723x(s!4C3lm(L1qy(740g(G!0C4mo(G_R4de(L!0C3yl(s_R51h(s!0C3lm(L_R_D!6C2vp(s25s(9%oD!6C2iq(L=p?L^ykao0!A?L^y?L^Y#y)Ag7c00#yC^yka(L_Rg?L@b5;-3]8%d3]8 F&E-24)Q040*,$W,$G#L9xcavoBgfpu(La4v6zoC681q@cayf2@ce1j2oD4qe9cC7dqoD16dy9cE&C;622=o54!5SA$t)i,!zCAS[W8cyvgsB9h5hysCl5xqu0D!jC)d;745[c)i_8f30B)d;672=o54!5[T#p#GSA%f4nj6ioB5rpt0oDkn7o60C!jD@Y~7;758?PsisCkixuysB8l6%KDazg1$0)d;778=o(h,^N@6lnse04Bs8lo4C9e6420D4p4vb0B)w;780?PsowCkixv4wB8l6%KD9ac1$0)d;72^8)i|-i1ulkgB)d;367[c)j#L1ngdi0B)c;815!c~1)j|-xnxnanB1kdn",
  "anA2ve7ddC2yfgknD)c;226=F)j(kj30B)c;29[c$G#L46nmw4B&C;31^M31^a)j#L4phh48Bafpx08C)c;659[c)j,)i#L1ngfr4Bbpwyb4C)d;678=F)i_8ekkB)d;210=F_GiykBr44sakC)c;781=F)i|-vu3fd6B)d;66~0#G[TT*_8efcBl5xrrcC!jB~7;74?T#GSAST_8f3cB~7;1088=F(h,^N(h#L3r0wegBje91egCdkj2q0B)w;-2588%d2588 M&E-2670 M&E$G#L9xcbc4Bje5c(9rl202aD&C;8836!c^N(h,@6w6p5hgBaiwqjgCsg1a0B3nbte0D2wu1z0C)w;361[c)j,#GWAST*(kk4cBzdk5ccC7ia)M)c;50=F$W,_Ghq4Bbk99u4Cdhle(q)c;-382=F$G,?3doBbk93poCdyod&7&C;-3?T$G(kh1wB&C;62=F_GhtgBbk975gC)c;1616%d2205!c$G,)j,$G@ljwwBem12kwC1jbm8=Jirx)N&C;31?T!T$d,=5?EfrwCgl6ajwB422&8xad?a4bb(7wrp&74s5$01kdp=3c05b$c4mq%r#eC!8B=s9md&795j$c9io%a!jC99e%r=s!8B#eCb28=J3cf3$c9ki%r#eD7vqy$c75e?a!4D|EET-2;2444!c561 P_b]9#La9dr7wBfke44bEenxevlC!2D53c(9u8w?O~6Fz3?kew)P8bx[e!8F9nx?O925~a8l1?Ogi34%T!6Db9k(97vc(G51mw(95ytc0$1b9k(97th(s7m0t&87tk=J93u%J_9C!2D!0C!4D|CET-1;4104!c54!k1]6#G[T#p)i,)j,#GCA#p)i#L4nj4i0B5rpr(9kn7o60D!jCoj2n?k235k[X8lho0G!bF!iG#oF#NG%s*3!iG%s*2!iG2m7?o)d;44002%d42398)I$QAH$t-$RHD#p-$QH%fhc7qjzBh4z1xp]G0q=O940J7r$B~8HD!o;50424%d35976%d$QA$t-$RAW#p-$RAP#p-$QAH$t-$RAHD#p-@jwzb]G2woD1tyx[e2e4(9b7yi=u12$3H1l94^3;@S136!c&06m6zkB&D;[i832%d_K&06m780Bk9mq(Z&D;-11568&1j2o=v8mo_5[1&7?Nb#b$051ud&7(Ed07nf_a;[i028!Jaic@5bqc]k@w)4;@S788!J95g@5adg(fb)S$Y;@S408!J9&7db2ao0(f@w)4;@S672!J98o@5ago)H76$Kc8w(x@D^h(37k2?c@w$Y;[Y044!J8yc@5a6c#cqi@L)S$Y;[Y516!J8l8@59t8)H76$Kbkt(q_zbqa)L73h$0bvu?n773[q3fid=37th~d27bk(9!xF1p7mk$Y;[Y612!J8ik@59qk]kb)S$Y;@S7~0@S408 CMT@i#L38a97w@5afw(f@w$Y;[Y444!J8n8@59v8#cqi@L#D2]Pk$Y;@S924%d15408 CMT@i,#P*#L38a91o@5a9o)Hpp$0b2a%e_z4qg)P4con%e7th~d2]P=H14n%e2gy%J!FD^LFer80jjF$6;@S652!J998@5ah8(fb#D27s8(9ma[q1um2k)4;[Y392!J8oo@59wo]kb#D27oi(712y[q1u93w$Y;[Y824_YcoBrlo7ioC&D;^9840%d138_HAMT$X,#P,#P*(SynkBlsru(7ldwofkDs4v$cs6w(3]Nb0d@P7rj$c*1b0d@P!jC?V*2?V*2?Vahu?n[d$K$PE!jC9o8(3!QCb7s(393p$09gt@P7nu$Kb42?n?K!FE]Nb9m?n@D@x^LE=Z!S[3=Z!FE!jC#NE#oC!iE!bC$oE^L[3!QC@x@D*1@x(D#7E!q)A!8E=C$o]F(D#F[3(D$oE=C*1$oE(D#F]F(D$oEgl(x6x6dzjD$6;^V988%I%6!DE%f353b18Cc5efx8(Nbfxj?9pmdk%U)K[p;-9244&1k",
  "v8=vaf8#rCc=z4irc%a?Ndikrf_a;-25260~2(v*2~3Fasq(Z!iF!b)A!eF!y[V_X!bC=a;[i309%d?D$t!PA$t~430*,-!zA)G^fg8iajDfzq06jB6w8%Tcjr?9!xCb7m=H?gh3dp~d5rb%e$oF_w*1^h)P84i(q&D;-11636&1j0s=v8ks)0q2ha3_a;^V168%d198)Q530*(z%6!DC)G^f52i&83edk)x6ham0C(8$8]c)B]ca0C6uc20D1mtz[e6c8(7xulg0$8]c)BC319de0F3e5$04mcy[q2vm$K=a;^9708%d&BT*@l838Chw37f8=V[G&D;[i560)u5grk=v93k)062xk%a!QCbiw%acv$cjg3pzjC=x;-17_y%d17_y BMT$X*?5#L8s2sy8Bg0p4(G14f1hi8Ceef%enghsj^v;-27889!c(g^5-$9PST@U#p=6)G#L8y0g=3h(X!bC1um8]49s7j?k1tz5=u2dvo0Gb9gdg=2*3!q(j!j_i51k40Hdoi@d64g40Hcl=A#m!m3!3!m4!3G=9MD!o;&U@U#p=6)G!D#J)t!EMD#p!YMST?Ed(sbjee)x1tz5$K2dv(Ldvfp@P!jD!8E*3!qD#7E_6=1!eE!bG!0F!bHct]47kj(3!bD!eE!y)O(p;^9108)u5hvw=va7w#rC@e5zjC=x;^7824_1,]h!DC)G)t@svb0d$Kj8d?O6x2w(s!yE!eD!yC#MF_B4bm?n!eD~3D]O#4E!eD!y[351k%T[p;[Y064%d16060 C&E-@H$X(SwxsBbjfjzwCrlo83wDmeoxm0C4dps(Gbc2g7jD=x;@T56=o@n,#P^fj7yb4Btcw6r4C10ovsj_a;-19532@h!DE?Au9gBbiv5teC[p;^V036%I(z)t%6!EC%f8@ubvu%r@D#NB#oC!8B!Q[k!p[k%2#h=Z!iEdbj$c!eB=Z!SB%2#h=Z6w8)P1tz8c0G2ds$c^c?C%S;-25460]L!EM)G(z%w*1#R!iD!bC=a;-25556]L!EM)G?2$01l9(3594(s!3E!x^k@k=9MD!o;^7173%d20173 SJMT!D#J(StrnBg74l(subtl3nC^O(qdoo%T^O(q5jso%T8dr%eaca%J2xh(x=a;-17296(u$X,#P(SvzkBag6l2tC3dl(0]qe1^w_i4ol?c!3G!iF!bG[mF!yG!iF#oG!iF9xbw0H6p5hzjH$6;-279?T!YM$t^5!YM%f8vrx38Bh39xv8Cvbu%r=9;^9460)u5hm4=v9y4#rCc=zw5h&75nm$Zi5zjC=x;[Y547_YkdBrlo7qdC&D;-448=o#P,#P,$T?u*,$G_dsjkBx8nx3k[w*453h=u&C;-33460(t079sukC97l62k)r465k00G3e2is=D;-28856[ErwegChw36ugBa&O=mB69u=u=9;-25196?UMD#p!YM$t=6WT*!EMP[W8y0j(xh(X*1#oC#NB2vm$Kataw(31tz5=u2dv(7a7n9&7(yB#u?C]x;-19931?UCST&M[t#p]h|-xx8dydB5eraudCdyey(q1tzb(3_L1c94)P=Z9rlbxoF71s2cC!8F!jC2cmd?c!jC3lp?cf4d$0!8F=KF(yF=mF]U=mF!jC[mF!yC%k*1%k*2_X#4&F1!3&F4@B&F3!3&F4!3C|(2;[i736!c_3l0B&D;-27232$JPT*|-x1yazkC629ink(N8n6%r29e$Kh6l&7(yB%2C!FB=Z9l0g=J1t[Itj1&7=Zctzk4@I$h8!7!N]x;[Y76=F]af28=va68_W7hg2@J5;^V408%I|-pkm4tcCymao5cB^LB!QC=a;-280]5!YM$t^5!YM?B-p1u4)M11ju(71sm0=J1si5$071s(3!jC5iid?c1q6700G4qz$K18uw(3elu$Koa5@P7ia$Kb63?O=Z!SE=Z!4E!0C!UE!0C!4E[8C!2E!6C!2E!1C!1]F!aC!CE!aC!8E(cE=m",
  "E!j)A3lp@P]s(3^BE%F*1!eE$H]F!bC!eE!y)A77c(3!3C!xE*4!3?d?dC|@y;-29447[Ervy1Chw36e1Ba&O#u$h8!7!91!3!93!3C!xF=9;-9240&1kvc=vafc#rC514g%a?iC$6;[i388^qwcC89fk8c=V[G3y8g%a=Z9pa5g@I$h8!7!N]H;[i5~0@T652 N$t-9052 N^jD#p?hP#p?hW#p-?D$t-#GADD#p-!zA)G@l7h8Bhw35goC^i?98kjb%ekzjykE!QD!F[3!QD@x_y(q@x!QD!FE!QD^ey0D@x!QD!F]F!QD@x!QD^h(3!pD!SE*3!pD!FE!pD!SE*3_6!8E!qD6y2s0I22420=B3!8_2_2=B2[dloH!yI!eJasqg0I7xc80H!bI!iH!bI!eH!yI*1?rI!BH!3I!xH[1ecI!xH!3I*3!BH!3I!xH*3!3?G!3I&DAD!o;-17072@h&MD#p!PAST!DE?Aw5sBbiv7pqCz3brw2D=K^k?z*2%l*1@q!3$g3!3C!xE1kj6(L!3C!x)O(OC|(2;[i82=o_3kcB&D;[i76=F&0kehxsB&D;^V724%I|-qqqskkCss0akkB4of$c4tid&76dj$c3wwa%r=C7n5m%r=Z=a;-19160%d188_HQMT$X*?5(SujsBle9mf4Dwb620oC_Jnglhv^v;^9959!c@n,^95)Q345,#P$X^fhmik9B1va8c9Cvj6nb0D8p0jd0Bnwp4jjB=x;@S264^q$0777g?a#eCst9o0(Nssy)M5rb$ccv1&769u$Kc6y%r6ky$Kci2%r67z$cci2%r6w2$K[s?K[s665$0[s?K[s(Ecls%a5v1$0cv1&76j3$cc6y%r791$0b42%r^m7yy$K[s(Edbp&7665$0cls%a5ed$0[s^m?Kcjx&7665$0bh1&7^m?K6uj(G1t[G!SB=Z*3~9~91cm2s0$2*2?v]H;-19768%d19_y H&E!PC)G!DCST!DC$t!PC)G(Su2wBijto08D1icfyoC69u(q62s0%T@E]t^O(q]t@E1fhs%T@E]t@E9s9k%T67z%eced^n9o8%T7yy(q^1bvu_0!8C[d(q^h%T8bx(xae5(Z8dr%eaca%J!jD!8C!qD#7C!qD#FC!pD!eC[H!SC!p^k!SC[d(q^h%T[d(q!iC!b)O!eC!y)O#7C^i%e#7C!aE!CC?bE!1C!1E!1C!aE!OF!4E!0F!2&L*1#MF$UE!LF1cm0?O#QF)zE%9F%3E#QF)zE%9F*1#fE%9F!2E#nF#f]F(R*3#f@A(R*3#f@A|CST5CDT,M3.2.0/0,M11.1.0/1;-26632$jT(v*1!yE=9;^7678]Qbaw8%a^O$K6w8]d(5*2=Z!SG19q7$c!SG5qonw=2!jGihsl[0;^7790%I%6(z)t!EC%f8=Gtj1&7&a1%2[k=m$2&a1=KB=mB=KGs31$01twas[D=hG7j54@Q!4!N%S;^7723?82wsa%r=Z1c94%a=Z!SB!p[k_V=2*1?jm@dfvt9[0;^7947?8501e)M#N@t2=KGsfz$c!8B(cB&Q!8B(yB!qGeu02?a!4[6;^7823%I%6(z&M)G!D#J#L8=G501e)M#N@t1=KG1tw5$0!8B=KH9cvs0(j@o!N%S;^7416?84gyi[Z7txx8=2*1!q(j!jGhfzh[0;^V007?8!SB=Z3fid&7=Z!SB=Z#oB#N[k=mB^L$2=KG2lz98=2@o[6;^7785?8(5*3=m$2&a2_V=2@oC!BHc8l]4!xH!3_i!BH!3G!xH*4!3!m3#mG|(2;&U,(g^5=6)G|-8ve5&8a34zs@I(yB=mB=KE9cv)L!8E!j)O=1&V*1(p;&U,!PEPT*&MD#p!PEWT*(z!DCD#p]h)t|-eb6a?o1l3^wB_Ldvfp=3=KD*3(yD=mD(cD?z[mD!bF7xc80G!bC!0D!bC!eD!y)A]RC|(2;-18430@h&M)G(Sv42Bbiv6(7wbl182D]s=",
  "J^BD(yD=mD(cD(yD!qC[p;54139%d32261]X$9YD#p-@ju44]G07v)e!j)A!8G!1C!1F=KF(yF!qH1leo^3;^7582]Qsg5&7_Aa98o%a=Z6w8]dast9oB1sw2cC21gi%r!Q@t3=mB4b^wG3j3xc=2*2?j=A%5;^7364%I%6!EC$t]h!DE%f8=Gbs6g40$2*2!X[mB$HB!bH!0G!bH!eG!yH*[f|(2;[Y356%d16356 C&E@T756 BS#p@n(SwpoBlt14(984i(q1j8fb57D=x;-18492%d185^8@n*?5(Sv2cB9ov9coDfcxjloC]V93u%J!jD@Ynw16%J]Ve5c%T]V1fr1(Z]V1yiy%J]Vmuzpv^v;-2837=F(g-%C#p-$9P%f8y0gg0$72?n2dy(Z1a3c5oBf2iicCowa?a!6&z[8&z[8[y!2B!1C!1B*2!aC!CB!aC!8B(cB?C@y;-8572&1ldw=vaxw_51wf1&7?iC$6;^7708%d20712 MMT(z)t!D#J(StcsBn7jmo4Cka1i0oDxqq$K24p6?n539$0dmt@P539$060it%edq2%T53e)L235h$04bei?n(Dat4)N7x1%T=a;[i404)u5gvw=v97w_Wmx1vbjC=x;[i7?T&06m79wB&D;[i660%d14660 FF&E!PA$t-!zA)G(Sy0sBb4o2(7zz5x4sD(D&D;-234_7(z!D#J@sykt4$0!bD3vpp(Z!yD!e[V[H#FC!QD#FC!yD!eC#4D!i[V!bD!eC!y)O77c%T)RD|%S;-25540$jT(v*2!bE#i?7!bE=9;^V027%I%6)t!EC%f7zjvrxCgz53bxB$HB!bCbmtus%U$c!SB=Za7n9&7!qC1at9?c2396)M!1C3lp&7]s%a^BB$h8!7!N%S;^V508_1@svb0d$Kfzu=H70be)L!yE!e^k!bE#i?7!bE=a;54822%d31578]X$RAK$t-$9AK)G#Lhc7qjzBh4ytl5]G0qu)e]U!qCgpc840!m1!3C3ylc0G2itg0H!3G!xH#mG(B;-23796]L!DCWT*(z#Key%J3kne=u@Drf4)P5t6$K1evk]4_z30p1?c=Cnufx~a&9ST6;^948=o!PA$t#P,$T*^fk1k9kBzy4wpkC3m59=3!yC%l*1%l*2%l*1]RC428j_a<-02>,M3.2.0,M11.1.0;@S548%d_K-&B[W8wys04B9nu9w4D89fh(Z^i%e7mqq(7@E]t*4@Edmt(Z_Bcao%T6fe(qbkq%J7ia(q6y5=H1tzd)K2dn(s!SC!pD*3^1@zC*3!pD@zC!jD!8[V=7#7C=7@Ys36_0#7C=7#7C!qD@Y[mC!yD!e=I)O[dlo=ID[m=I)O!eC!bD!iC#4D6uiycC!3D!x)A!3D!BC)RD&DAD!o;-24076~2@s2u5u%J1si5[e8jh=3!pE$PCt89k)P!bC3vpp?c&9ST6;^9491%d13491 MMT$X,~4]6#P*,#P,-90)Q230?u*,-54)Q130?u*|-w4mll9B67el&81s74p9E#eD9exe0E9czy0)O3ydyq0E=i*27[R0)O9q1e0E[basxe0E7x5a0D6do20Eppvy0G4mmm0F8g9qq0G901a0F38pe0H2in)K2nf9g0H_u1e3s]49o3y0Fq8he0H2ki=uyxhg0H4b^wFs36s0I2vl60G#7F5rg20H^O=uweqs0H3yi=ue1ms0H4of)Kerk40H3yi=u2vs40Hgk7)K41iys0H3wn)Kerk40H4b^wF_U4a=u_Uu7)K_Uh980Fbvus0H6u7)K614qs0H#FF$oH!pF^h40H_N1!SH[d=u^h40H*1_N2bxogjjF$6;-1905[c]h&M[t[W353dasCc5efes(N7yx60Baqzy0C9q8)x7jz(7bw0)x_Aced&7=j[1&7=jbvu%r@Dbiw%a*2!Q#h*2%2#h*4%2C!FBxje(L1tzb(3_L!SB=Z*2!SB#oC!iB$HB&a3!p#h=KB*2#u?",
  "v(2;[i93[c_3fkB&D;-1857=o!PEWT*&MP#p]h^f6m4c6Cfqrow6B1e5h$01lh&7a0n(s3aw$K9o00)N=KE(yE=mE(cE=mE(cE%F*1!eE$HE#4%v1!3%v4!3?d?dC|(2;-1_y[c]h)t&M[t[W8y0o)Lh(X*1#oC#7B%2[k!p[k%2[k%2#h=Z6w8(31tzb)P_L^c?C(2;46702%d39698)I@jzup]G2t=O6c^3;-778=o$W?u|-t85lzw=v8rw=rgvjC&22>2;-24427%P@I!X*28!7!91!3C!BB!3H#nG!3H!xG*3!3H!BG!3H!xG*3#8|%S;-24312%P[D_P&K2!e&K[f|%S;-24339%P@I!X[m_PG$C4!3H|%S;@T4^8#P,#P,$T?u?u,$W*_dmf4Bx8nqz4[w(4D!4C!0D!UC!6D!HC)n!UC)n!H?w!6Fj31c0[v!U?H!U=S*1_FF=X0;-25060~2?2$0#QF!3C!xF*2@BC|%S;-19088%d19176 CMT!DE?AulsB9jvmqgC[p;^9240%d13252 P&E^9236 P&E~4]6#P^fsj4g8Bcixc0cC5lydbkDkcrm6cErtftxjE$6;-26898?UMD#p=6W#p!YM%f8y0j[eh(X!bCbmtu)LzjedoC4ol=3#eCbs6lmcB!jC=9;-17360%d173_HPP&E]h&M)G!DE?AvxsBe4gmngDylcf6c[7@Y*38aa?k[4#ME[43vpj$c[H2stv(9!3D!x[V!3Dpkg%T!3D!x[V!3D!BC$u*4!3D|(2;[Y27[c]af(Z99kak0)0amve@J5;@S336)u5g60=v8i0)0q2h7bjC=x;@S865!c!PA$t-!zAP#p-!zAW[W0xhp3bBmhp1jbD1ppu%T2dn)x&D;-17020(u$X,#P(Sw78Bag6lahC3dl(0]q5rbw0Hb0wwnjH$6;-23316%I%6!D#J#L71bfccCf0j80cB!QCtj700(N9ok8%a?N2a5hg%U$cbiw%a=Z$oB&a1=Zb7s%a]Naut&7&a3!p#h*2=KB=Z1cm2%r!QC1cm2s0@C(C[rF!aG!C@CG!CF!a(C*2#MF$UG=4$U_i=4$UG*2=4$U_i#MF!4=R!0B!b!N%S;_O6s8l&87zza8)F!N%S;-8376&1ljc=vb3c=re3_a;-25116^s9ycC6l1hmc(N60en?9&a1%2C!FB=Z1b6840$2(D#FB!j)A!8B!jC66g(s1t[I$oB!jC$oB&a1%2[k!p#h=Ztj1&7=KF=a;_Obnp9&8cvfy8)FD!BB!3C!xB*1!3!94!3!93!3!94!3!93!3!94!3C|%S;^912=F~5t85hvc=va7c)0amve)LfflsjjD$6;[Y965(u,#P*$X(Sw8rBag6l&83dl$w$K351=3229z)K2b9[eb28%T2mg(Gb73400G!QH[1g0G6h980H$o=d(U^h]4[dk0H!FG!QH!F=d*1(U*1!F=d*2(U*1!FG!jH!8=d(U#FG8zzw0H!F=d*2(U!FG?JH$oG!pH$oG!qH#FG(U*2!F=d*1(U!FG?JH$o=d8zzw0H#FG!bH5ei[Zcyl80H!xG!3H!BG_CH!BGvonw0H]Te1^wH*1]T!3H!iG!bH[mG!yH!iG#oH!iG!bH*3@V*3@V!iG6xxvjG=x<-03>,M9^44,M4^44;[Y_y%d168!5SD&E]h!DE$t-@H*,!PA?Awe0BmkixcoDhiw29cC67z%e1dy8(362ha0Dcnle0E4h2m0Delyq0E47ta0Dei9e0E4bim0Deek20E4dda0Decpe0Fdkmt=31st~d&D;-11188&1jd8=v8x8B9a9!g5k02%r6on$chaa%r316$Kcl!fB5ed$0cyq%r5ed$0dbp&7(E@e8r_a;-527[c$T,$W?u,$W(P*[a?u_drxkBx8ntpkC!CD9cv[Z!j=f*1!1%LF@ME!0H!4I$bH!2I#X*1_FI=X0;53927%d32473]X@jua0]G01z)e]U!qG1",
  "leo0I7rs80H!jI!8H*1!jI!eH!yI&e*1?r?G!3%u3!3%u4!3I(B;@T652%d9052 ND#p@T652 N$t?h^jP#p?hW#p-54!5NDD#p?h)G@l8wkChd05)M8bx$0ar4%a^i$c9tj%r539$0dkys0$2[U3#F$2[U3#FB[U17tm?k1wfukD8zz?ka34(x!QE!F)O!QEbiw=J_y=H]v!FD!QE^ey0E]v!F^k!QE]v^h=J!pE!SD*3!pE!FD!pE!SD*3%t*3!8D%t*3!8D!qE#7D!qE!8D!j]F[dloD!yE!eHasq@P7xc(x]O!bE@N[1ecE!xD!3E*3!BD!3E!xD*3$l*4@k|NST3:30ND!o;@S05[c&06m71wB&D;[i640%d146_HC&E!PA?Ay1cBbh9s(9&D;@S5]5&0j7vz4B&D;[i696%d14696 K&E!PA?AxzsBbh9s(9&D;-25880^s9d4C6l1h14=V[I!SB=C$oB&a1=Z3yle%r!jCs36s0$2%2C5j4l?c=a;^7932%I|-pfzh6kCyho0ikB^LB!QC96x1&74qa$K=a;[Y508%d?DST_dj9gC12yzilg$2!jC#F=h[V8!7!N]H;@S50=F_318B&D;-2954=F(g-%C[W8vrvv8Chw36b8=Vz2?n2dy(Z(5*3!p[k%2C!F$2*2?v@y;-32412(t079tnoC97l6vo)r%oG7e3pg=D;52865%d33535%d$RY$t-$9YW#p-$9YP#p-$9YD#p-%pv3i]G20hD1tz0?O2e1$0cawi[q#W]U!qC1lbw0H7rs80G!jH!8_i!jH!eG!yH!e&K1!e&K2!e&K[f(B;&U#U,%j#U|-irx)xlag4(773b?auz1(760l(x2fnh$0pz9&7at4&889u80Bacg&880n?aasw1oC89wycBag5po)A84lacB7rcf7jB?X;&U#9!W#9|-6rmd)x42jdw0A27wg%rl8us%J7eq)Lunm$K60q)LdismrjD(d;&U$e|-c05e?a2mks80A2i72&716dxkzjB=M;&U,^x(FAED#p^x&U,(FAED#p$QAE%f0mb9)x8ts4(Z!CD11wn?nf4kh%aa6p8?c!1D!4F#QD)zF*1%9D)zF%oD%RF#nD#fF*2#QD#fF#nD*4#fF!0D!2F!6D!2F#nD#fF*1#nD)zF!6D%3F*1%9)O%3F!0D!aF!CD?bF!1D!aF!CD[8F!4D!RF!CD!aF*3%bF!CD!RF%bF*1s34(G!1F!1D!aF^r(4D!1F!1D(4F^r*1^uAEDT@f;&U#0!W|-8ael)xt22y$0eqvo3jC&d;&U,4?pST|-7b2d(s9txt)M5re(7%RB&A*4#fB&A*4#fB&A!2B#MC$UB*2!OC!RB*2@O*1@O?bC!CB?bC!1B@X*4!RC!CB!aC%cB@X*@a;&U@i,~52lxh&831h?abqa%J71m)Mbqa%J8ov?9!8C!qB!8C!jB!8E28t6(q^O=H46b6%r8c2[q!pG!SF$sF_CG!BFvon]q5rb?kb0wwnjE$6;&U,#P|3lxs@Qvwm8zjB$6;&U,$n|-6qsq?a169crnjB(J;&U,72!k2*(P(P|ibru(L27p&7(6!LB(6$bB(6!LB(6$bB(6!LB!2C!6B!UC!0B!4)A_FC#S0>0<+02>-2,$m/3;&U#9!W|-6aaa?aiushw0Ae23&7f79g%J7cq9jjC&d;258=o!T$d]9!n#L353tzoCb5svboB6qf%Jcgcq?a15ts(s!6E!a&N*170q5)N!a&N[rE!aD!2E!6D7law[X!C(C&4F$I3;10794!c$n|-afs0buB19yc1bdB(J;18468&f@R#9*(la90[9a0d0(M&L!LF!2Ea37r%r78xazjB&d;86^a%D#p$n|-kcrtbkCm566fkB60l$0?e&G*1ayi%r_s9b9&7&Gaut&7&G3e68%a#eC9io40$2*1!qCayi%r7rj$c^h%a[d$K9zc%a8dr$c$oB(D!8$2=C^h%a#MD$UB!OD",
  "!RB*1!ODepm?o4de(L9o5)N%WD9b6?o%WD!1B%bB^zB$UD!OB%bB^zB!HD!6B!HD!0B^zBwel$051k%a_9B!2D!0B!4D[8B_9B!2D%oB%RF7y4ejjF(J;42596!c%A,@7*(H(H*^W(lsv8[99zj8Dqi27$c#eD!8E%WB!8E#eB]3=S!LH!FI!6FdzvtzjF(a;120?T#d!W#0@R^l5b4[99y74Cqrh3%e(V*1!1I!8H!1I)U7jF&d;1372=o#d)7%0@R(l6l4[99zh4?I!ZFhc4zzjF&d;1401[c#d@R!W^l6t8[99zp8^P(j_Do0b7vjD&d;124?T$n!W#0@R^l5m8[9a1a8Cqrh1=J(V&4F!a[v*1!4F!0H!FI!6H!2I!LH!4I!LH!2Fhc4x7jF&d;1066=o10656^G$n,#d*,$n,#d*@mhk4Bem11c4Cxkn3%e&G9b9=3_s$PD#eC!8D9b9g0=f[rF!aE9f1=u%WE(Q(QftcjnjE(J;1214=o126!k3]6#d,$n|-eukpd8B1a1eb8Cetwby0Dy9703jD(J;119?T&X%0(l58cBh4tkwcD]u(j!1G!1E1twdk0I!4J=Z^zC!HD#Y!LC_9C!HD!0C!4^kblsznjD(e;241^a24124 BMT#9&Hla4Bl068(91phce9nC(d;201_7#0?R4ljicB5hu6ucD!hF*238fo0I64og0H#aE=Ww43jE(d;852=o!MT&H98oCkzyucoBaun$c88d&7#eC8ya%r^i$c$oB!QChjqo%a&G?e*1)s&G5lhs%a56y$K?e&G*2ayi%r&G?e&Gaut&7&G2wxu%r=C_h*2=Cbs5&7_zalk%a86d$0_h=C*1a6q%r80t$0#7$2*1!jC#F$2*2?Q)A@W%N*1@W?Q)A@r3.5.0/[C0;17904&f#0*#0*(l9tc[99zxc^PG7vc@Qbkl80G?JB$oG*38zz?99db20H!bB!iH*1#oB#NH*1#oB!iH!bB*1!iH#oB#NH73aa0DgxhgbjD?4;2758=o@G#U|-mvofy4B3khxs4C1itqj5jC?X;27232)JfogB5hkxggD$50Hqne%ebdw9njD?W;2565[c252!k7#E*#U|-xmcrskB11sncckD2]0bbjD?X;29143!c]7%f00eztjC9jeyxjB8sl$0asbp&76w2$K7ve%rbxj$c4mq%r1vdu$Kd4a%r75b$c$oBaaa$K!8B&G?e1dx$0j9xp?a?N!SB%2#h*1=Z|C?t8;191?T19172 M&E=q#0*,)3*,)3#0,=q&HhgcBdkh6nsCisle6kDcajy0E1mp2u0Cqetj)K7x5a0G4xvqq0CgktuxjC#S5^Q5:30;871[c!MT,$n?Ek20C5k6q0B=C$oB*2(Dk4hk%a7yy$K?e]Nb0d&7&G?e]Nalk%a887$c?e)s*2)s*2)s_Acg8%a_A2eh1&7(D9ts%a(Dpvk%ac33$c7cw%acjr$c6zx&7btu$K7rp&7_s!8B!jC#eB#eC9rx&791u$K920%a#eC9o8%a#eC!8B=s9b9&7_s99e%r9ii$K!8B=s!8B*2=s!8B*18y5$0#FB#oC!iB^g!iB!bC*3@W#oC#NB*1#oD7y4hbjD(J;217~0212!5H&E)3,=q#0#9*@mq2sBr080dwCbmgywD5lx(Z4qkn?ku4ijy0Fa14?Oen10fjE?4;3014=o]Z#E#U#E^f9s3)Mfqct$0hufs(Gcpz4%Tjhkf7jC?W;1327[c#d?EnkoB1pm0ok7B(e;16512&f@R(l8qo[99yuo^PG8c2s0Ho73qnjH&d;814=F%D#p$n,=5|-p4bqacCrvhy2c[z!LE#V$bE8h8)Kleo=3!6E!2@4)T%x%V;827[c]b1sDkp9t1sB69[J!pD!SE#MDahs1oE71micD^Dcg8(3^p;8423!c]b5zDkp9t5zB69[J82n%eane?n#MD$UE73h(x^D1hs(31lb%e!8E^p;25590(w92uB2isi",
  "(7~bazm(72cm7%e8285&8wo9b7jC(d;2740[c^d306!5HKW#p$RJ$t^d$9HKT|-y0i0%rj44d$K5k0(G4d4y0E2195i0H=Zbj320F#QG)zF!0G!1F!0C!4F*2#MC!4F!0C!b]y)fv@vH!BC_C]y*2)fv@vH!B)A_C]y*1]J!jH!8)A!q^F*3!8C!q^F3lp(Zf4d80^F*11c94%T[dk0H|HKT-8;21996!c@9#U*#9|-xmcoz0B11sncb0D2]08jjD(d;25025!c25025 IMT#9#E*#U#U#E*#U*#9#E#E*#U&Hlz5Bkwq5&85fh17)2lrjF?X;695[c7016 I&E!MT,$n,#d*?m?m,$n&H814Bg1oam8D2wvx6wC7v9(x1tjc%Taun%e88d(Z#eD8ya%J^i%etzp(Z791(xawo%T7v9(x7p40%T4zj%e2vs%Tf4d(x9vm%J1u5e(qc54%T69u(qaca%J_w$oC_w#F[7$o)A_w5md9(Zo9z%ea6q%J75b%e4iwy$c!0D#NC#oD75h(Zbkl^o!iC^i%e]J4iq)N2nkw80F38l[ekde)L8qtc0G#MH%W)E?b%z*2!CG!a%z!a=Q*2!v!HH7kdk0I!2J^t7m2o0Ib4000J!6I!2J!0I!4J7z1c0Iar1c0J!0I%3J%9I8fe[eb5gbzjE(J;2563[c25632^G264!k720,@G#E#U,252!5WIB#Lhfty&7tfikqoC4lzx(s4wdzjcE1tu960D1cx860F11jta0D74uc20G|WIB-7;3376=F@8,342!k9]6$RWIT|-jebm20B66bqe0Ca37vy0D|WIT-9;8454!c84_HJ&E(A144!5IDD#p(A!zID#p#GI%fayy96uBjtxuoeGbp5aigC69x(s2f1&810q8(G7rm(7b0a(L7th&8b0a(L8je(7a8i(L*1t9p)N571&834y(L9b6(79gq(L8je(77th(sa6o(9%3D#MC!1D!CC!0De1k(94oi(L*1dol&8%oD!4C!6D8rfe?c^O@d$AGb28)P80t80G9zc)P9ii@d9ki_T?c8qq@dapf[X!pGbiw)P8zx]49io)P?JG9ki[q9v^wG8ul?c!qG9md?c?JG9tu)K9?l@d9zc)P9?l@daca[q9gnw0G99e_T?cawi@d]M*2&I*1]M&I*2]M&I*1]Mb9^wG7gl?c*2b9^wG]Mawi@d*1|I?t2IDT,M3.4.4/26)55.0;1660=F#d,162!k430@mm5cBspc1pcC1ck9lfjC#S4^Q4:30;380^M%j(H*,%A^W|-olrupoB3z045oD!hF=0zvtzjE(a;1609[c=q,)3*!W,216!5PKS#p]8!5PKT_cb30Bim3zt0C1mn]8B33xp=3a63o20Fg72q?o!jF2y85@P7v980F8hm?naaa=u|PKT-5;2102=o@9|-lx5pjwB1lfpqjfB?4;204^M=q,207!k545?Et4sByg2lusCr5y89jC#S545>-5:45;32533!c]Z$e*#E#E$e*#E*#U^Z$e,%j#E|-q4cjrpB5hl1jp(M&L*13fx40K4h6s0I!2J!6I!UJ^t!6L8ql00J1mlh?oc4jojjE?W;2120=F212!5H&E19270 M&E198!5I$t)3*#Loaa314B83glc8Cisc6tmDinnm9aEbmf%e5lx@P1mn1(x|I?t5:30;22286!c@9(I#0#U#U*#9|-q37l72B5gg8j2?fizjE(d;24406]n5yB2ax69lCe(r8>-8;2648=o@G,300!k820*#U#E#U|-mvof3kB3khwxkD1epvy0C?x*2?x4ohqoD3ajlcE1v2q(q1c77lzjD?X;115^8$n|-afs0vwB19yc1vfB(J;2725=o$9CST$e*#E,]7$t$RC)G|-y0i2cyBjdvyoyD6on$cac5(x8fs%T7v9(x11lu?9awl)N7vc[Xac8?Obko[X!0E!1F7vc?O!4F!0[3auq~a88a?o!4F!0E!4F%9E%",
  "3F%9E)zF#QEbw1q0^K277c]4_CB!B_i_C^K1_v9cv%r&T_i!q^J*3!8G!q^J3lpg0Gf4d80^J*11c94]4[d)M|C?t8;3619=Ynxc[9a05cD$50Hs39=HbcgkjjE(b;28656!c28656 MMT#U#E,$9WITA?Ez&76p5h&84u87%e1w02=H|WITA-8;-5736=F2903[c$RPD#p$9P$t$9P$t$RJ$t$9P%ft8ix2gBsjc9igEje0p&83wn%e2kc5(Z2zb)K1leo(9dzp(s4d3m%J2rx(xbwlp(Z95j%e6lv1(Z_J|P?t8;140?T#d?Eo6oB1pm0p67B(e;800=F%DT*|-p4bq6gCrvhxyg[z)T)T%x%V;2092=F@9(I#0#9|-nu36tc[9bu5cD!hF=0zvg3jE(d;199_7#0?R4do0sB5hmbcsD!hF2vh00I6hn40%z*1#aE(oHwrp@Pb7rqrjE(d;17610&f@R#9#9*#0|-q5xmx6B5j6d16?fg7jE?4;123^a$n)7%0!W(l5ic[9a16cCqi2540$f3!1H!8I!1H!a&J]SF]WH!8&J*2)U7jF&d;25]8(w8rgB2isicmCgj=k1c7q4njC(d;2624=o262_HP&E@G#E#U,$9WITA,252!5WIB|-w6piwwBcse2(74tnu2wD1wkei0C1cx860E11jta0C74uc20Fcixam0G|WIB-7;3018=o3^T$RKST|-w895ycB1yh10cChk5da0D10ipm?a1f4q(L|K?t9;1236=F#d,$n?EmvkBrctnrkCy9703jC(J;1526=F#d)7%0#0@R(l7s4[9a0o4?I!ZJa37p(978xazjC&d;1571[c#d)7!W*#0@R(l84g[9a10g?I4!1G!aF!1H!8F5rbw0I]WG!8&c*2!a[v!UF!6G!H=S!LG!2I7dmq&89yi9njC&d;1121[c$n|-bwgbbgB1bf0cazB(J;3424=F@8,#O,%j,#O*$e,%j|-xl87rcBkvnarcDikvh%T9!V4!1%L(j5re?o]W$p&4E!aF!4E!0G!SH!0=Q!v)k!6E=Wwf7jE(b;16073!c#d)7(l8eh[9a1ah?I4!1G!a&co62pbjF&d;3047[c3^T$QKD#p$RK$t342!5KD#p$QK)G|-w8966gB1yh18gChkx5a0E1faa(L5ci=Hae5=3[d=Hae5=38bx[e[1=36h9[e1bj6%rl3aq0F6j3?9d2g)P6u7?9!FF_y)Mbiw)P*2_y)Mgrs(3dfqxi0@4!0E|K?t9;24925]nkdB2ax6(7e(r8>-8;3689=Yogs[9a0os?fu3jE(b;2916=o$9C$t$RJ$t]7%f2mch60Blsd1m0C45sl)xc51(s75b?9$oDaaa)M!8D7v980Bawo=J*27v980B7tk=Jclm)M7rp=3b07?9*17rp=3#eB$PD#eB!8^k#eBcjx=369u)Mci2)L69u)M6its=J#eB!8D#eB1yf9=34qa)M|C?t8;16631&f@R(l8tz[99yxz^P(jo62pbjH&d;10751!c10751 TB&E&X^X&Hayn_j(7h4tjynEckin%e#eE!8)O#eE$PD&T&c%cG!aF!1H!8I9cvs0J=KJ*1!jE!1D!jE#FDipz%e!4E!iD]O#oE#N)O#oE!iD!b[3!iD4ofw0J6hn40I!6Eh4kmfjE(e;12344!c12344 T&E[g%0,[g|-s6m6uwBa5dp(slsvh0wCayg[X7z2q0E#QF51h(sa4uq0C5wv%e9gt(Z9kd(x5ja5(Z7av%e!8C]I9b9(Z*39@Z*2]I!8C]I1av4%T9@Z*29@Z]I7zz9hjD#S3^Q3:30;215^8=q#0|-bojcloBkxymnoCq94qxjC?4;33539!c$QJD#p$RJ$t$RJ%f6snn(Lvhje?a#QC$UB#MC#fB#n)A|J?t9;20391!c@9?R3zbqfB5h7z2f(ME!0F1leo0I97k40H!0=Q!2H!6G)k!6E(oHtw0(3bang3jE(",
  "d;34374!c]Z#E,%j,#O,#O*$e,%A,%A*$e|-q4cl6uB5hl2yuCqi27?k9en(L!8E#e)O]3%mJ8ql[X1mlho0Ic4jrbjI=M;24624(w8)x2ishx6C~b70y$K1772cjjC(d;31651!c@8^Z$e^Z*#E,%j^Z|-oligf7B3yqvf7?frbjE=M;31138)JioyB5hl0gy?fojjE?W;23087!c23087 R&E)3#E,)3&HkhbBkvhp&8bnjp3bD1kh520C1ce01zjC#S6^Q6:30;14553!c13505 P&E#d@R!W#0*%0#0@R|-rx5hw9B1kybx4C5pfyv)2dfjF&d;1068=o&X%0(l48oBh4tjwoD]uG!8%z&4G!1Esfz)K!4E!0F!HE!6F!H&L!L@3!U&L!L@3!2EdopfvjE(e;-6160%d6872 H&E$W?u,$W?u,$T[a[a,$4[a@ldwwBem124wG2b&ZE!1I82xuc0H!1I!1H*1!a&J(m[rJ!aK(m*14olg0M4ofw0L46000J571c0K(m*1#I_FK&21>1<+00>,M3.5.0/[C1;@S558%d11958 BS#p@S558^G-?D?AxbuCe851)x95j$ca16%r7yy$K5w74)N69z5ruDeef?k!iDbiq=H!BD!3E!xD!3Est4=J64a=Hcyq)L5ed[edbp=35ed[edoo=J^O=H*1doo=J5ed[e1xuw=J!pE94r9=3!jE!8)O!qE#7D%t[mD!yE!eD]O#4E@N*4$l*3$l*4@k&DAD!o;-3696!c$W,)o,$4=wT*|-oytbtcBctvupcChhq7)L#7=f&4%LF@M&L$b@3!H&L!L@3!U&L*)g;-5644!c$T,$W?u,$W(kb%rg06l&81mn1(xfpqw)NwfqtvjE&21>1;[Y^a)o,$4|-wcehewB127keuwC%b[V!a%YC!2D#Y*)g;-4056%d4056 F&E0 +00*,$W[a,$W,]Y*,)o=w#p$4=wT*@lfjcBem10zcG2b&ZE!1I83at00K!CI!1@2!aI!1@2!8^E&4M!a^E(4M!4L!0M!U[5!4L^RL)8^R[5!4L*)g;-528=o0 +00*,$W,$W(P*,$G|-wcwx9cC4rpd9cBci2%J69u)Mdu8%T4x@vBdu8%Tp7b?94w0%T9bdz?99d6$c64g%acyl(x%oE%RD#nEbvs(G#Q]F#fD#nE#fD#ME$U)O#ME^zE$UD?Y*3?Y*4?Y*3#ME!4D#MF&C;-876=F$T@m2kgB259l3jzB&22>2;^968%d1368 J&E$G@m8a0Bvu1e(7&C;^9884%d13884 S&E#P*$X,$T*,#P,#P*(SymcBbkx9(sdbvxqc[7#F[7$o[7#F[V4xp(xl1pu[q!QE#oF77c(3biq=u77c%T!2D#NC#o^k#NCbiq(q)fi]rbi]r!FD)fvp(x!BCbvp^o*3)fvp^o*177c)PeaalnjF$6;3326=o]i2zwB27qdzwE97=yeeio(9%oD%RC#nD#f[V=n*2#fC%9D!2C!6D%3)A%9)O%3C#nD#fC!6D!2C#QD#fC%9D%3C!6D!2?w!0D!4C!6D!2C#M$1?b=gC(4$1(4=g)A[FACDT@f;36728%y%f354kc8Dbhbss8^b1#nC^u;3394=F^x]i3j0Bt9nr0C1egq[q97zyu0D49p)Ncxfk(G4h4?O%b=Teeio(G%oE%R[xE*4#fD#ME!4D#nE#f^k%9E_9E%3)O%9E%3[x[3#f@4$bE#V!LE_9E!2@4!6E!2D#ME%bE?b&N%cE!a&N(4E%bE(4&N%cE!a&N*1[FACDT@f;36292%y%f33j5c4Dbfqds4)h=E#MC!4(n2%9[y%3B*1%9C%3(n2&A*1#fB!0C!4B^S;35356%y%f2smja4Db03ee4B!CC!2B#nC#fB#nCbx2a?a4h4(9!1B!1^Ic9tk@Q!1C!4B#QC)zB*1%9C)zB=E!0[y!2(n1#nC)zB!6C%3B*1%9)A%3B!0^I?bB!1^I[8B!4C!RB!",
  "CC!aB[rC!1B!CC!RB!1C!1B[rC$y,(1;314~0]i1k8B27qck8E97=y[F;3092=F351!k945*,315!k845,315!k845#L2nxx74Db05944_4f1bt2jC#S845>-8:45;35756%y%f354jl8Dbhbs18^b2&A^u;3818=o^x@F*,378#20]6%j*#L33j6skB18x8f0kDc8uu0C6u7%e[1^n*2[1@P777y)C7k6m0Dbiuq0[3777y0Dbiuq0E6ham0D(8]F6?s)O(8E=i*27[R0D_xEasum)C=i*17[R)C=i7k6m)C8a3y_S3_lE*49pym_S4_l[35j1xjE%Q0^Q10:30<+11>-11)51.0,M4.1.0;34792%y%f33j46gDbfqcmg)h=E&A*2#fB%9[y!2B!0C%3B%9)A%3(n1&A#fB!6&z^S;27804!c$RAWD#p$9AW$t$9AW%f2nxuscDb058sc_4|AW?t8;]l!n|-s0e080&v%O;^V6!5CST!DC)G%6(z|-r0es&7(Wtz8(s2dsw0$O%S;=5[j#p!MT?0A%V;-]8!5EST|[p;-_K!PED#p!PE[tT*)t|-r0ev80B(Wtzb=J2dq40$O(2;$G|&C;$W|&21>1;[h|]p;-[l||<-11>11;^6||<@T>12;$T|&22>2;#P|$6;@n|=x;-]8)Q5|&25>5;^V6)Q6|&26>6;!Y-07|&27>7;-$9-08|&28>8;-$R-09|&29>9;]Y|#S1>-1;360#20|=M;%j|(b;%A|(a;468#23|?S;@7|%Q4>[i;72!k2|#S2>-2;$n|(J;#d|(e;]8!k5|&d;@9|?4;252!k7|(d;]Z|?X;@8|?W;0 UTC||UTC0;117[c477^0477^012!k020,48!k120*,48!k120*]9,!T!n#Lygf4wkC16g19)x&Ga51(L!0E!RD!1=T*2_t!REc51(s6l1)N!CD!aEci0(G682?obgy(L794?O%3D%9Ebmi(L7]1d9(s7ct)Nb~cvs(G#QEbko(G7id)Nb9k(G7]1~ctx(s21uc0H4uaz8F%3G%9Fbko00G7id~dbd3s0K1aarpcI!6J!aI!1@2]KIggp1c0&u;3?T)o$d]mm4Bnvgqy4Ck3ctg0&N(4E%bE(4D)WE%O;1153[c&X,#d|-nu2zkc[9bv8c&W3!1(j&S#aE=Wvv_f;569[c5692 A&E!MT]9?m?m#L2rxtq4Baw2tdoD8bjasgC2vm(q4hiw%T16i=usco@P7lx)P9o2=H$PD4atz$c6dj%ebplu[Zbq800H71uw0G!1H!CG91xc0H9o5c0G#7D9qg(79ak=39ii$K999(x9dcg0I!1J!1I*2!a@2%cI!a@2(4I!4J!0I!UJ?1;-75?Z$G,#3B$t(i#Lrprx9xEzqf9hx=8#CF^2H_e=Q!UH!0G!4H[8G!2H!6G!2H!0G!4H*4#M=Q*2!v)k!6G$i]e;4920]jmgoBtwhnkoEswz(9!6D!aC%bCb7p(s6ql&8jl1hc0&c$I3;320=F!T$d!n,!zCEM#p!zCEMT*!n#L421154Cc1n0x4]E2o7)K6bs@Q2tx@P!6D91x)N9b9=31sq@d2in?951k(3!RD!O=Tfx91c0[A&R%O;34?T3464 P_b!n,$G!n#Lqmkw08Blsd1(scttug8C7ve)L[SFb8qd)N1cm0[X!6E!a$p!HE7vc[X2vs]44bk(G2vm=H!OF!RE!OF9o5)N91x~dfe6000H!1I!a[A&R%O;105=o1050^G)o$d!n,!T,$4,)o!n&H3h6B6forh6Cbr3h(srrx80G7vc(G[SF2wh40J5omo0H!2I#QHcyo00I7ayo0Hbko00I7rmo0H!RI!RH!OI!CH!a&J]A90b00I]A!O&J!CH!R&J!CH!aI!RH!O&J!CH!aI!RH!2I51hc0H4de?o1a36=u!6E!aF!1E]KFa4t)N]KF%RE794[Xfwu800K!CL!aK!1=P!aK!C=P&4K!a=",
  "P%cK!a=P(4K)XL%O;62?T6264^G!MT?m?m#L4u7wu0Bkrxx~dfj8m0C6w5c0$1!aC%bC%cDkp0d)N6h980F!aE#7F9d6$c%b[V!a$1%cC!aD9cv%J%b)A%bE!jF!8E!jF#FE!bF7xhs0=Q*1!v)k!6G$i%V;458=o!T$d!n!n#L5bee78Cdb0dz8)1B!0Cauq?a7vc(9$UB!OCaq1x@Qthc)N!6D)vawd@Q$PC7px(q9rr$c9b9=3!1E%b=T2f4v%r?Nbw0)x#QC%RB%o)Abr3b%r!CC!1B!1[V&TF$I3;204=F1786 B_b!n#Los49kwBlc05jaDohmxdmC!0D!4C!0Dk2zus0=f*2]f%O;692=o69!5C&E6264^G%D#p]l,!T_m&H808Bjw96okC70f1toFfj8m0D6w5)N%bE!a&N%cEgeqo0Gha580Joc8g0H!6I!aH!1I7cl00Lj3pbw0K#eL!8K*1#eL$PK&TM!1N!1M%cN25@vG7kd=H%bE9cv[Z!jF!8G*2!jF#FG!bF7xf00[v!H?H!U%mG!H=S$bG!2?H!H=S$bG!2?H!U=S*1@r3.5.[C3;302=o3020 C_b]9!n@mbnwB235k(Gbo7orwC75b%ecbs2$c1aco[e!6%L$p6y0?Odbm~a6bs?O%RF51h)Ne1k[X4oi?ogiutc0G!C%z&4G!a%z%cG!a@g;@S21%d1521 D&E2079 IS#p(i,#3IS#p#3I$t#3IS#p$G#LanxqtrBiol4$0#QE9pytrD8c0?O9o5(s9ru?o_t%WE_tauq?o88a(L%WE8y8[X!RE!RF!6E!4F#ME!4F!OE!RF!OE(K$UF!OE!R=e*1!aF!1E!R=e*1(K!RF!2E51h~d3g88?O#MF)zE!OF!R&L!OF!aE!C%LF!aE!C=e$U=e*1(K!C@3!2&L!6F!2]F!6F%3E]SFcyfo0G^2I%9F%3E*3!6F!2[3!6F%3E%9F*1%3E!pH!4I!0H!UI!0H!4I[8H!2I!6H!2I!0H!4I*4#M&R*1&CI$t$m;@T84?Z$G$d!n#Lanxr0cEiol38c=864d#gC$UB!OC!aFd0t@v)E*1!a%z%cG!a@g;-609)Y|-tiakv3D1ixx33B&x^2L_eK!4L!0K!UL!0K!4L[8K!2L!6K!2L!0K!4L*4#MK)XL]e;5989!c5989 H&E!MT?m#Lbss9ydBmebs(Gax3tqdC9gq(Lk31s$0!1$1!8=f]f%V;-1075?Z#3B$t(i#L9a1gi5Chaosq5=8#CE^2G_eF!4G!0F!U=R[8F!2G!6F!2=R*4#MF!4G!0F!UG!6F!H=R!LF!2G!6F!U=R!LF!2G!l!l!6F!U=R]e;-506)Y#L1cer(q9d23%r&x1kjf(G_eK^zK!UD!0K!4D[8K_9K!2D!0K!4D*4#MK^zK!U[B!4D_nD)9_n[B!4)O&CB$t$m;492=o!T$d!n?m_m?m,$n,=5#L4212goCc1n28o]Eel00Gz6~a9kd80G82tg0Ii9avw0H#eI!8H*1#eI$PH&TJ!1K!1J[rL!8M!1L%n!0L!4M!LL!2M!6N(oM|EET-2;1192=F$n%0,#d!W*,#ZK)D=b3!1(j&S#aI(oH]o;73^a7324 K&E%4T?m[jT*&H8bg_j(737a03gD5vd6@dkzv(3!6F!aE1oy=3jipzs0H(T%cJ^Ok0Kneqw0^E?bM!SN!0O!4N!LO%1!LO!2N)q%V;-2205!c$4,$4,[o)o$d=w#p]l,$4@lgyrAem0zmrG2buf?96zx(Z668@Q_g71s%a*1_g73m%r_g71s%a_g1b2g(G8so?Ost1(s!O=T!R)O!OEst1(s!OE%bEsg2(L!1E!CD!aE!RD!OE%bE!CD!aE!RD!2E51h(sbmi?o99c(G%WE88a(L25@vF_D3lp@P%9D1sq=u#QD38q[Q[Q?n#MD!1E9d9o0&N*3)v[rD)v%cD)v*2%bH57lj%J%bE#FD!1E%b=T!j&N*2)v!",
  "8I!1G!1I?bG!1I!1G!1I(m&4J!aI!4G!0I!UG[KG_oG)a_oG[KG*)g;3484]jlcsBtwhmgs$V;14^M!T$d!n,$4,)o=w#p#3WET,#GWES#p#GWEST*!n|-y89550C68l290B75h(Z!bB796%Jat1(q!0E3lh]44zm~ab6300G6u2~dcyt@d7at)Pbkt@d7rh)P$oG^i)K8n9@d8zx)P#FG#eF9b9g0G^i)K_v!qF#7G^i)K*18ncc0H!aI!CH!RI!O[2!R[2!aH!RI!O[2!aH!RI!2H51hc0I42ao0L1aeak0J!6K!aJ!1K!OC!RD8l9)N%RD794?Ofwu800M!CN!aM!1@0!aM!C@0&4M!a@0%cM!a@0(4M!4N!0M!U?M!UN&b!H@1$bM!2?M!H@1$bM!2?M!U@1%O;-8]5$4,[o)o!n!n]m)N90si)M8ya%J!jB$PC2d2v?98sq%Jssy)M]J!qB#7C!RB!CC^i?9]J40l^wB5k2%J!jB1fr%e7z1)xj1c$0[d@d13yt80F685g0Gbrz)K_v^i)K*2_v1clx80F!iGcswi=u#7G!qF#7G_u!8G!qF#7G_rH!1I?60/3;34]5!T$d]9!n#L3qyw0sCbsbx8sB(E!8B#eC88d&7^g8n6%r!jCaau2%r18r9(q!6E!aD9b6?o!ODa4t)x8j9%T9f1=H$UD89z?n$UD7kd=H!2D979r?n=jcls(3%oD%RE%oDcyo?O%oD%RE%oD#fE#nD%RE#nD9b6?o!1Dahs?O7m2(Lb45)M&a3=Z_h8y5$0#F&c*2$I3;66^866!5M&E%4T,$n&H7rs_jogC379zjcD5r1m@dpbf(3!6%LF4oa(sj6dmk0H(T*4sg2o0K!8=P?bK!4L!0K!UL!6K%q!4L!LK!2L!6Mdzv4zjM(J;1772@p=w#p[o)o!n!n#L4hnyp8B9tlnlnG2pzp=cEmdb~a!pE~6%LF9nz?n922)K]KIfxlx80H!jI_rJ!CK!aJ!1K?60/3;9017!c9017 M&E12679 MS#p9079 M&E16279 MDS#p#ZD*!W*,=5)D)6D*?m)6K)6D*)D&H9mhBj1sw(GipzuaC97h(s7yy=H5i8%Td9@vE1jwk7F2cv@ds8o00H1qvw0I8fpc0H1jm[Zis040J412a[Zqi27w0H#e(j*1#eG$PH&T^H%cL!aK!1M!8N]SK]W=P&4K!aL!4K!0L!UK!6L!H]DL!U]DO(oK]o;561@p,$4]9,!T,[o#3CET!n#L54gb3lBafgo[X2qx1=cE5p8w0I18rcc0G!6H!aG!1H7efo0J29k(3922w0J]KKfxlx80I!jK_r&u;5794!c5794 R&E9394 LS#p%4T?m&H74yBjzal$K!0Ba4t&82mg@Q3myn)L7fhlkyEgz]8Hp5v)P!6G!a&ck7?nj14ns0I#eE!8I*1#eE)Z!1M!8N!4O!0N!HOqaao0N!2O!0N!4O[L!LN)m$bN)m!LN)m$bN)m[L%V;2996!c2996 R_b$d!n,!T#Lhs7rn8Be170v8Gbsds(9_B!8C#eD88d(Zaun%e7ig%T#oD]J!jDaau2%J18r9=H!6%LF8l9)Na4t&88j9=J9f1=u$UE89z[q$UE7kd=u!2E979r[q6h9(xcls)P%oE%RF%oEcyo[X%oE%RF%oE]g*1%oE]g%o[3]g#nE#fF#nE_rH!C)E&4H!a)E%cH!a)E(4H!4G!0H!UG[MG_pG)b_pG[MG%O;1202=o$n,#d%0%0*,$n,$n*^X|-qcx4@Q5q5z(7[ND&T=f[r_qH12w(989zs0$p=0zv7_f;4420]jm2sBtwhn6s$V;1105=F&X,#d=b2!1G!8%z&S#aE(oH13m0(3b0x7_f;81]58160 S&E%4T?m)6K)D&H8zc_jooC37a0qoD5xiy@diu3(3!6%LFia(sjajmk0H(T*4eei(7wrpg0^H*11sl00H7kdk0I!1J!1I9pug0Jat4c0I!iM!4",
  "N!0M!H?M!UN&b!H@1!pOasqg0I]o;5144]jmmwBtwhnqw$V;5596!c7016 I&E=5]9?m[j#p!MT&H6zgB7s708kCp0d6uwD!6E!a&N!8Chqq2)P$PC9o2=u920%T9o2=u908$09pu?c90b00G!1%z!a)E%cH!aG9cv[q=KF*3!jC#FF!bC7xhs0I!4J!0I!HJ?1;433[c3614 SET]9!n#Lbhq3ccBayjpvyC8jiakeD75h(Zx5be?k!C$p&4E]f%O;594=o59_HT_b$d,=5)D,!T,#ZD*,%DT*&H790Bjvj9)N3re10C!0Det6&7ygov0Fa1zgd0Gktx80Hl94=3!6C!aD!1C8uac0Gj27mk0I#eG!8I*1#eG)Z!4M!0L*1!SN!0O!2F19dc00O!4N!0O!HN)q%V;476=o#3CET!n,!T|-t85vo8Bdt2gw8C18pe?9!6Cm8@Qg7ot%T7rj?9aut(Z!pBayi%J!pB!FC!QBb42%J7lz?9*1b42%J!pBahu%J!pB!FC!pBa4w%T8jb?9$PC9d6%e!1E!1D%cE!a&N(4E^zE!UD!6E!H@4%x)T)T%x%O;116^8&X,$n*,72!k2^X=b3!1_qJ]SH]W)E&4H#aE=Wvv_f;22]5!T$d!n#L3g44fgCohmxrgB!0C!4B!0Ck2zus0&N*2)v%cD)v(4D)WE%O;3921!c!T$d!n!n#L4211oxCc1n1gx)1D!0Et60(G#MEa7a8(G=Lii?oivm(L91x)N_t!1E!RD!OEgfyy&7(D9d9o0&c*2$I3;60^M50_HW&E5736 KMT$d,%4T!n,=5[jT*&H7csBjb5y4sC1g224oDe75ncE4kq(qacbs)Pgpp40Ipit[Z!6H!aG!1H65z~aj4vx80J#eF!8J*1#eF$PJ&T^H[rM!8N!1M!a@0(4M!4@1!iO!4P!0O!2Q1s3eo0R!4Q!0R]B!LR)l$bR)l!LR)l$bR)l!LR]B%V;1066=o$n,#d%0!W*,#ZK)D|-q3cw84B5glrw4C[ND&T=f&4G!8%z&S#aI(oH239c(314oqk0H]o;504=o50_HW_b!n?m,=5!n&H6)Miko8(Gdvy&87ve)L[SIaunw0G!0H1evb)L9fcw&818ca~a!6E!aF!1E]Ian9$09kd(x8fs(3922)Kar1)N!0F!RE!OF!aE!CF4013?k%o$p%RE#n$p#fE#nF*2%RE%oF6j4t)N!C%L$p!aE!C$p&4E!a$p*2!8J!1K!1J*1!aK(m*4#I!w0/3;3832]jlmgBtwhmqg$V;&U|&20>0;-$QHST|~8;11404!c(h,144!5EAS#p[ngssBm9lccsC4oi(L)w;1738=o]8!k5#0_cc2sB1ag64usCly387jC?4;2537[c252!k7#L33iwwsB22m2xwbB(d;2326=o)3#L0j6sm4B201qtlnB#S6^Q6:30;103]5[ng0gB)w;&U!W|-afrs@Q19ybszjB&d;1330=F#d_c8xoB1we99x7B(e;1764=o176_HMMT!W&Hga0B15r19&814qh7xjC&d;138_7%0_c9bcC13jnu7cB8bx$0dd0w)x=Zf1binjC(e;10856!c[ngdkB)w;1331[c#d^fks29sB1u3c39bB(e;#3MET,#GMES#p#GMES#p#3MET|-s0e080&v*1|MET-1ME$tM3.5.[C3;!YMST|=9;=6)G@U#p!YMST|-r0ep?a(Wtz5(q2dvo0$O]x;-$9P?B-r0em?9(Wtz2)L2dyg0$O@y;45184%d41216%d414!5-11]6[h*,-[l(H,@7*#L4fxxj4B9nfe(7kcrmt4Evp3la0D9od?o!CD4zb@d4qo?c!1G!aF!CG(4F!1G!aF!C_i!aF8rka3jF?S;41944!c450!5NZS#p414!5NZ&E432!5NZS#p4?p%fgsoz14Cusn9z4B(Ebiw=J7x5a0Casxe0^k8a3y0Cafyq0)Oafvy0C_xDasum0C*3_xD",
  "b5ta0C7k9e0Db5ta0C_xD2qrd20Gf1tp=H]SF%R@A(R*4#fE(R!2E#MF$U]F!OF!R]F[O!R[3[O!RE*3(K?bF!1_M4!RF!CE!aF%c_M@a;37336!c3_E#E,%j&Hvh4B7tuc88Cosc24wD1n05(Z1071c(3c1b0jjE(b;4402=F441#2215,495#2345*,459#2245,459#2245#Lgsp0n0B149qqm0Ef1tq90C_D%RC=n*4#fC#QD#fC#nD!2C#MD$U[V!OD!R[V]C!R)A]C!RC?bD!CC?bD!1[PC*4!RD!CC!aD%c[P)A5w4rjC%Q245>@T:45<+1345>,M9.5.0/2:45,(1:45;-4997[c3642=F360#20#E$e#Lt8j2rw=U76a5nwD29he%Jbken%e29fk%T1c9ddzjC=M;-26248%d26248 EMT!E-06*,!Y-07,!Y-07!E-06?5*(Sp2wBm9le?oivmeuwC!QD[1^n$oC!pD!SC!pD^1^h%T[d(q^1@z)A!pD!FC!Q)O@zC!pF!S_i=t*1!FG!jF!8[u=t#FG_u!F[u*2=t!FG?JF$oG!pF$oG!qF#FG=t*2!F[u*1=t!FG?JF$o[u_u#FG!bF5ei[Zcyl80F!xG!3F!BG_CF!BGvon)K]Te1^wF*1]T!3F!iG!bF[mG!yF!iG%s*3!iG#oF#NG#oF!iG!bF!iG6xxvjG&26>6<-05>,M9^42,M4^42;40396!c#O,#O^f964i4Ewbu364B51h&84y8q)L!jE!8D!jE#FD8zz?k#FD!jE!8D*3!jE#FD64a=He1m)L4of?knh8ybjE(b;-41096%d[l(H#L00dhmgB1lxe1igCdljh3jC?S;42944!c468#23*,%A|-sa2x4wC17bs00wB%oCcyo@Q5re(753a5)x%oC!4B#QC)zB4oi(7e1k@Q4oi(7eei?a4bh$0erk%a3yl&8erh)x3yl&8f4g@Q_I*2fhe?a38o(9hn6?a1fu(78vivfjC(a;4301[c=Nais_kbibB(a;^V504%d]8)Q5?5*!E-06|-kcr62oBspdryoD3lsa%J_Jnglf3jD&26>6;-32388%d$R-09|-tvndocB1te7envB&29>9;3838=F%j|-tvowacB1te8x9vB(b;-5166=o3474=o$QGST#E,(FGD#p_Zh0=Uld6pp0D1dl9(Z7s1k(3txp$03frm?nqdrpoC7kgacE3lj$c[1@P?Nbvu?n?N16uo(33lj$c16aa?n4ivxoCcls2cE=j^C0;-37886%d378!5H$t^UD#p^UW#p^UP#p-$QH%f2lnw3mBjgnatmC13l@Q4jvb(G1tyvu0E2e5e0Bvot?c~8;&U,^6,-[l(H|-gvk8@Qlypq(77yiq(qmgvrrjD?S;-3_y0%d384!5-1040,[h,@7#L00dk74B153iz5sC7yirhcDmgvujjD%Q4>[i;-472]5391^8%j#E$e,%A,%j#Lt8j4uk=U76a4ykD?ycm25)Pf9l3$ckdq4zjC(b;4016=o%j$e#E,^6,=N8bkBise0fkC27sa)L1hju%rddxu@Pcgv6=un6g2bjF(a;4108=F%j#E$e,=N91cB76a6hcC29hh)M9cmd=J27sa%J1h6w%adeat(3znb8vjE(a;-33480%d342)Q930|-tvncu0B1te7dtjB&2930>9:30;-42568%d[l,[h*,-(FS%f00dghkBsx94dkC@E|SST11;4006=o@F#E,%A|-pjxiwsBba66ysC1kwca0Bhfzda0DurfndjD(a;-40780%d408!5-1120,-[l|-8zbv78B63yiokC12dxdi7C|<-11>11;4031[c40320 +1112,@F,450#2230*,@F,%j,%A*#L00f8fsBq3einsCcfj8q0D#nEl6nk[X239aq0(C?b&c(4(C%cF!a(C*15j3bjG(b<+12>@f;3994=F#O,#O^f9645oCye0ixoB",
  "4db$cecq%r4f6$K99p7(G4oi?olc6nbjE(b;45432%d40968%d(FS%f4fxxq0B9nfe(7|SST11;-541^a322^M@8#Lt8izkk=U1ziz383C?W;-31220%d306)Q8]6-$9-08#L00dp8sB1esg26sCkqho1jC&28>8;-4842=F3797[c%j#E$e,%j#Lt8j3ys=U76a42sD?y1c9ddzjC(b;3532=o3_E&Htx4B7tuao8C22nok8fC=M;48056%d38344%d378!5-10]6[h,-342)Q930*#L0jifqwBrk6i(7dlv68wE5rb%e(8E6ham0)O(8E6?sD*4(8E6?s^kogumljD]p;-5142=o3498=o@8,(FGD#p$QG$t_Zno=Umpn8noE7t6a)Ltx@vE3frm)LqdrpoE7kgacD3lj?k[1=36u7?kbvu)L6u7?k16uo=J3lj?k16aa)L4ivxoEcls2cD6h9[e^C0;-35896%d$Q-10|-tvnaywB1te7byfB]p;415^a=N9dg_kaczB(a;4435[c444#2220(H,@7*(H,@7*|-corj)M7znjyoCk8amdcD8fp)N)zF4bh$0eel?c4bh$07pmi[q_Iays7jjC?S;3998=F=N86s_k96bB(a;4412=o=Nbdk_kcd3B(a;)o=w#p$4?0A*)g"]

def records : Array String := (Text.splitOn recordText ";").toArray

/-- The paths of the database's files in order, blank-separated, each a base-36 count of
the characters shared with the path before and the characters after; then `*` for a file
without zone data, `>` and a base-36 index for a record not the next new one, nothing for the
next new record. -/
def fileText : String := String.join [
  "0Africa/Abidjan 8ccra 8ddis_Ababa 8lgiers 8smara aera>4 7Bamako 9ngui ajul 8issau 8lantyre 8razzaville 8ujumbura 7Cairo 9sablanca 8euta 8onakry 7Dakar 9r_es_Salaam 8jibouti 8ouala 7El_Aaiun 7Freetown 7Gaborone 7Harare 7Johannesburg 8uba 7Kampala 8hartoum 8igali 9nshasa 7Lagos 8ibreville 8ome 8uanda 9bumbashi 9saka 7Malabo 9puto 9seru 8babane 8ogadishu 9nrovia 7Nairobi 8djamena 8iamey 8ouakchott 7Ouagadougou 7Porto-Novo 7Sao_Tome 7Timbuktu>5 8ripoli 8unis 7Windhoek 1merica/Adak 9nchorage aguilla atigua 9raguaina agentina/Buenos_Aires iCatamarca jomodRivadavia>1m krdoba iJujuy iLa_Rioja iMendoza iRio_Gallegos iSalta kn_Juan mLuis iTucuman iUshuaia auba 9suncion 9tikokan aka>1g 8Bahia d_Banderas arbados 9elem bize 9lanc-Sablon 9oa_Vista agota aise 9uenos_Aires>1l 8Cambridge_Bay bpo_Grande ancun aracas atamarca>1m ayenne bman 9hicago bhuahua 9iudad_Juarez 9oral_Harbour>1z bdoba>1n asta_Rica ayhaique 9reston 9uiaba aracao 8Danmarkshavn awson e_Creek 9enver atroit 9ominica 8Edmonton 9irunepe 9l_Salvador 9nsenada 8Fort_Nelson dWayne>3a caleza 8Glace_Bay 9odthab>4f aose_Bay 9rand_Turk aenada 9uadeloupe btemala byaquil ayana 8Halifax avana 9ermosillo 8Indiana/Indianapolis gKnox gMarengo gPetersburg gTell_City gVevay hincennes gWinamac fpolis>3a auvik 9qaluit 8Jamaica 9ujuy>1o aneau 8Kentucky/Louisville hMonticello 9nox_IN>3b 9ralendijk>2m 8La_Paz 9ima 9os_Angeles auisville>3m awer_Princes>2m 8Maceio anagua cus arigot btinique atamoros azatlan 9endoza>1q bominee arida atlakatla axico_City 9iquelon 9oncton bterrey dvideo creal cserrat 8Nassau 9ew_York 9ipigon>46 9ome aronha bth_Dakota/Beulah lCenter lNew_Salem 9uuk 8Ojinaga 8Panama bgnirtung>3j aramaribo 9hoenix 9ort-au-Prince c_of_Spain>3u co_Acre eVelho 9uerto_Rico anta_Arenas 8Rainy_River ankin_Inlet 9ecife agina asolute 9io_Branco>4l 9osario>1n 8Santa_Isabel>2w drem ciago co_Domingo ao_Paulo 9coresbysund 9hiprock>2q 9itka 9t_Barthelemy>3u bJohns bKitts bLucia bThomas bVincent 9wift_Current 8Tegucigalpa 9hule bnder_Bay>46 9",
  "ijuana>2w 9oronto>46 btola 8Vancouver 9irgin>53 8Whitehorse 9innipeg>4p 8Yakutat 9ellowknife>2t 1ntarctica/Casey bDavis cumontDUrville bMacquarie dwson ccMurdo bPalmer bRothera bSouth_Pole>5h cyowa bTroll bVostok 1rctic/Longyearbyen 1sia/Aden 6lmaty 6mman 6nadyr 6qtau 8obe 6shgabat 8khabad>5u 6tyrau 5Baghdad 7hrain 7ku 7ngkok 7rnaul 6eirut 6ishkek 6runei 5Calcutta>6u 6hita 7oibalsan 8ngqing 7ungking>66 6olombo 5Dacca>69 7mascus 6haka 6ili 6ubai 7shanbe 5Famagusta 5Gaza 5Harbin>66 6ebron 6o_Chi_Minh 7ng_Kong 7vd 5Irkutsk 6stanbul 5Jakarta 7yapura 6erusalem 5Kabul 7mchatka 7rachi 7shgar 7thmandu 8mandu>6s 6handyga 6olkata 6rasnoyarsk 6uala_Lumpur 7ching 7wait 5Macao 9u>6z 7gadan 7kassar 7nila 6uscat 5Nicosia 6ovokuznetsk 9sibirsk 5Omsk 6ral 5Phnom_Penh 6ontianak 6yongyang 5Qatar 6ostanay 6yzylorda 5Rangoon>7w 6iyadh 5Saigon>6g 7khalin 7markand 6eoul 6hanghai>66 6ingapore 6rednekolymsk 5Taipei 7shkent 6bilisi 6ehran 7l_Aviv>6n 6himbu 9phu>7p 6okyo 7msk 5Ujung_Pandang>71 6laanbaatar>65 8n_Bator>65 6rumqi>6r 6st-Nera 5Vientiane 6ladivostok 5Yakutsk 7ngon 6ekaterinburg 7revan 1tlantic/Azores 9Bermuda 9Canary bpe_Verde 9Faeroe broe>83 9Jan_Mayen>5n 9Madeira 9Reykjavik 9South_Georgia at_Helena banley 1ustralia/ACT>8c bdelaide aBrisbane coken_Hill aCanberra burrie aDarwin aEucla aHobart>8d aLHI>8h bindeman bord_Howe aMelbourne aNSW>8c borth>8e aPerth aQueensland>8a aSouth>89 bydney>8c aTasmania>8d aVictoria>8i aWest>8j aYancowinna>8b 0Brazil/Acre>4l 7DeNoronha>4b 7East>4x 7West>3t 0CET 1ST6CDT 1anada/Atlantic>37 7Central>4p 7Eastern>46 7Mountain>2t 7Newfoundland>50 7Pacific>59 7Saskatchewan>4s 7Yukon>5a 1hile/Continental>4v 6EasterIsland>bh 1uba>38 0EET 1ST 35EDT 1gypt>c 1ire>9v 1tc/GMT 7+0>8p 81 90 91 92 82 83 84 85 86 87 88 89 7-0>8p 81 90 91 92 93 94 82 83 84 85 86 87 88 89 70>8p 5reenwich>8p 4UCT 5TC>9g 5niversal>9g 4Zulu>9g 1urope/Amsterdam 8ndorra 8strakhan 8thens 7Belfast agrade 9rlin 8ratislava 9ussels 8ucharest 9dapest 9singen 7Chisinau 8openhagen 7Dublin 7Gibraltar",
  " 8uernsey 7Helsinki 7Isle_of_Man 9tanbul>6k 7Jersey 7Kaliningrad 8iev>a3 9rov 8yiv 7Lisbon 8jubljana 8ondon>9l 8uxembourg 7Madrid 9lta 9riehamn>9y 8insk 8onaco 9scow 7Nicosia>74 7Oslo>5n 7Paris 8odgorica>9m 8rague>9o 7Riga 8ome 7Samara 9n_Marino>ae 9rajevo btov 8imferopol 8kopje 8ofia 8tockholm 7Tallinn 8irane bspol>9t 7Ulyanovsk 8zhgorod>a3 7Vaduz 9tican>ae 8ienna 9lnius 8olgograd 7Warsaw 7Zagreb 9porozhye>a3 8urich>9s 0Factory 0GB>9l 2-Eire>9l 1MT>8p 3+0>8p 3-0>8p 30>8p 1reenwich>8p 0HST 1ongkong>6h 0Iceland>85 1ndian/Antananarivo 7Chagos 9ristmas 8ocos 9moro 7Kerguelen 7Mahe 9ldives 9uritius 9yotte 7Reunion 1ran>7o 1srael>6n 0Jamaica>3k 2pan>7q 0Kwajalein>bu 0Libya>1d 0MET 1ST 37MDT 1exico/BajaNorte>2w bSur>3x 7General>41 0NZ>bd 2-CHAT>bf 1avajo>2q 0PRC>66 1ST8PDT 1acific/Apia 9uckland 8Bougainville 8Chatham auuk 8Easter 9fate 9nderbury>br 8Fakaofo 9iji 9unafuti 8Galapagos ambier 9uadalcanal bm 8Honolulu 8Johnston>bq 8Kanton 9iritimati 9osrae 9wajalein 8Majuro arquesas 9idway 8Nauru 9iue 9orfolk aumea 8Pago_Pago alau 9itcairn 9ohnpei anape>c5 art_Moresby 8Rarotonga 8Saipan amoa>c2 8Tahiti arawa 9ongatapu 9ruk>bg 8Wake allis 8Yap>bg 1oland>at 2rtugal>a4 0ROC>7l 2K>7i 0Singapore>7j 0Turkey>6k 0UCT>9g 1S/Alaska>1h 5eutian>1g 4rizona>4j 3Central>2f 3East-Indiana>3a 7ern>49 3Hawaii>bq 3Indiana-Starke>3b 3Michigan>2r 4ountain>2q 3Pacific>3q 3Samoa>c2 1TC>9g 1niversal>9g 0W-SU>ab 1ET 0Zulu>9g 0iso3166.tab* 0leap-seconds.list* 4seconds* 1ocaltime>9g 0posixrules>49 0tzdata.zi* 0zone.tab* 41970.tab*"]

def markers : List Char := "!#$%&()=?@[]^_~VX".toList

/-- The characters that close one: digits, then lower and upper case letters. -/
def places : List Char := "0123456789abcdefghijklmnopqrstuvwxyzABCDEFGHIJKLMNOPQRSTUVWXYZ".toList

/-- Writes out every reference of a text by the pieces it refers to. -/
def splice (pieces : Array String) : List Char → List Char
  | m :: p :: rest =>
    if markers.contains m then
      (pieces.getD (markers.idxOf m * 62 + places.idxOf p) "").toList ++ splice pieces rest
    else m :: splice pieces (p :: rest)
  | cs => cs

def pieceText : String := String.join [
  "7x6o0;9d1c0;b5uo0;c8nw0;asw00;00 ;7k800;a840Bast80C7x9g0B*1ast80C8a840Bafuk0C*18a840Bast80C7x9g0B*1ast80;9d440;C6udg0B!3C6hes0B*;9q000;ast80; LMT,;x80C905g0B9px80C!8B9cyk0C*3!8B9px80C905g0B9px80C!8B9cyk0C*28a840Baf;8a840;s40B4ml80Ccls40B66580Ccls40B67zw0C981s40B6u7w0Cbiw40B5rbw0Cd0lg0;c0C9io40B99980C8p65g0B6zuo0Cbs2o0B67zw0Ccjxg0B69uk0Ccjxg0B4ml80C;qi27w0C9et80D!8C*19et80D9eys0C9d6w0E!1F!1E*4!1F!aE!1G!8H5reo0E3ljw0F!1E!1;7x9g0;9cyk0;!5+0;!6F*1!2G!0F!4G*2!0F!2G!6F*1!2G!0F!4G*1!0F!2G;G6udg0H!3G6hes0H*;,72!5CEST*,36!5CET;T,M3.2.0,M11.1.0;7x3w0;9px80;zw0Ca4w40D73h80Ccls40D66580C*2cls40D67zw0Ccls40D66580C*2cls40D67;!rzw0C6a040Dhy7w0C6a040Dxovw0C3uys0D18nbw0Cb0dg0D8ve2k0C3uys0D3yi;!sk0Cbqas0D71mk0C*1bqas0D8ovw0C!8D!qC!8D!jC!8F28t6k0E51ek0F7m2qs0E4tzw;!aG!1F!1G*4!1F!aG!1F!1G*4!aF!4G!0F*2!2G!6F*1!2G!0F!4G*1!0F!2G!6F*2!2G!0F!4G*1!0F!2G!l!l!6F;!2H!6G*1!2H!0G!4H*1!0G!2H!6G;|CET-1CEST,M3.5.0,M10.5.;6hes0;afuk0;108!5;D1stc0Cg7c00D25s00Cg7c00D1stc0Cg;6udg0;902o0;,-180!5;,-216!5;b5xg0;C1stc0Bg7c00C25s00Bg7c00C1stc0Bg;*1!2;!aF!4E!0F*2!2E!6F!HE!0F!4E*1!0F!2E!6F*2!2E!0F;!c-15408 CMT,-144!5-04,-!z-03*,-72!5-02*,-!z-03|-138a;!g5mf440B49mk0Chaas0B316k0Ccl!fB5e;*1!0;!zEEST*,72!5EE;!91!3!94!3!93!3!94!3!93!3!94!3C|;8n400;-144!5;7k580;a2yo0;asys0;72!5CEST*;*2!2;et80D!8C*19et80D9eys0C9d6w0E!1F!1E*;,180!k5;!qC!8B!jC*13lpg0Bf4d80C64g40Bclmk0C!8B9p!duk0C8!7C!eB!yC;-252!5;4!1G!aF!1H!8I5reo0F3ljw0G!1F!1G*2!1F!aG!4F!0G!UF!6G!HF!0G!4F!LG!2;,216!k6;!c-180!5CDT*!ECST!DCWT*!DCPT*!ECST!DEST,!PEDT*|-18y0m00Fhxltk0B!bC!iB!bCbmt;!5+1;36!5;*1!b;C9o5c0B9ruo0C9b6o0B9ew00C9b6o0Bauqo0C88ao0B9ew00C8y800B!RC!RB!6C!4B8;#5a5c0C!4B!OC!RB!OC!aB!CCafxc0B!OC!RB!OC!aB!CC!RB!OC*1!aB!1C!RB!OC!aB!CC!RB!OC*1!aB!CC!RB;905g0;!3H!BG!3H!xG*4!3H!BG!3H!xG*3!3H!BG!3H!xG*4!3H;,252!k7;!aG!4H!0G*2!v!UH!0G!4H!LG!2H!6;xpg0B7iak0Cbiw40B6u7w0Cbiw40B!QCbiw40B6u7w0Cc8tg0B6h980Cdbpg0B5ed;C5iv8k0D67!t0Fbiw40E776k0Fbvus0E6;144!k4;9et80;c8qo0;c0B4bms0C6uao0Bbvs00C!0B!4C!OB!aC!CB!aC!1B!aC!CB!OC!aB!CC!RB!O;C!FB!pC!SB;!iD!bE9q2s0D!QE9q2s0D!yE!eD",
  "#4E!iD*2!bE!eD;!LJ!2K!6J!HK!0J!4K*2!0J!2K!6J!HK!0J;!3J!BI!3J!xI*4!3J!BI!3J!xI*3!3J!BI!3J!xI*4!3J;!3A!BB!3A!xB*4!3A!BB!3A!xB*3!3A!BB!3A!xB*4!3A;!3!m4!3!m3!3!m4!3;6hc00;b5rw0;T*,;|EET-2EEST,M3.5.0/3,M10.;B9a9!Kd80Ccyqs0B5ed80Cdbpg0B64ak0;!LC!2D!6C!HD!0C!4D*2!0C!2D!6C!HD!0C!4D!LC!2D!6C;!LH!2I!6H!HI!0H!4I*2!0H!2I!6H!HI!0H!4I!LH!2I!6H;!qC!8B!jC*3!8B;!LE!2F!6E!HF!0E!4F*2!0E!2F!6E!HF!0E!4F!LE!2F!6E;!Gkao0!G7c00C25s00B*1g7c00!Gkao0!G7c00C25s00B*1g7c00!Gkao0!G7c00C25s00;!jJ!eI!yJ!eI!bJ!iI#4J!eI!yJ*1!eI!bJ!iI#4J!eI!yJ*2!eI!bJ!iI#4J!eI!yJ*1!eI!bJ!iI#4J!BI!3J!xI*1;!Akao0!A7c00D25s00C*1g7c00!Akao0!A7c00D25s00C*1g7c00!Akao0!A7c00D25s00;#7H!qG!8H!jG*2!eH!yG!eH!bG!iH#4G!eH!yG*1!eH!bG!iH#4G!eH!yG*2!eH!bG!iH#4G!eH!yG*1!eH!bG!iH#4!m;13lpg0Bf4d80A64g40Bclmk0A!8B!qA#7B!qA!8B!jA*3!8B!qA#7B!qA!8B!jA*2!eB!yA!eB!bA!iB#4;#AA!eB!yA*1!eB!bA!iB#4A!eB!yA*2!eB!bA!iB#4A!eB!yA*1!eB!bA!iB#4A!BB!3A!xB*1#l!BB!3A!xB*3!3A!B;64d#gCafxc0B!OC!aB!CC!RB!OC*1!aB!CC!CB!2C!6B!2C!0B!4C!6B!2C*2!6Bbitc0C5reo0Bcyfo0;vus0E776k0F3fidg0D7thc0F;,324!k9;9q2s0;72!5;s40B5rbw0Cdbpg0B51ek0Cdbpg0B6h980Cc8tg0B*164ak0Cc8tg0B6u7w0Cb#b80;!aJ!4K!0J!UK!6J!HK!0J!4K!LJ!2K!6J!UK!0J!4K#j!4K#j!4K!LJ!2K!6J!UK!0J!4K*1;CDT*!ECST;|-p1u4k0B2u5s00C1si580E8jhg0D!pE9;|-1;8a5c0;7kas0;432#22*,396#21;-!z-03;6uao0;!eD!bE!iD#4E!eD!yE*2!eD!bE!iD#4E!eD!yE*1!eD!bE;|<+0;0D25us0E;,288!k8;!2D!6E!HD!0E!4D;!jC!8F*1!qC!8F!jC*13lpg0Ff4d80C64g40Fclmk0C!8F!qC#7F!qC!8F;!6H!HI!0H!4I!LH!2I!6H!UI!0H!4I;!6C!HD!0C!4D!LC!2D!6C!UD!0C!4D;144!5MSD*,!zMSK,144!5MS;80C;D!1C!1D;B!jC!8B;y080G!jF!8G*1!qF!8G!jF*13lpg0Gf4d80F64g40Gclmk0F!8G!qF#7G!qF!8G!jF*3!8G!qF#7G!q;#3WES#p0 WET;!hF*2!1E!I!4E!LF!2E!6I1vbzw;|<-03>3;Fhxltk0B!bC!iB!bCbmtus0D1tz;B6u9a0Cbvte0B*16u9a0Cc8s20B6ham0;288!5;0D2itg0E;*2!0;w0C;,#3CET;,360#20;D#eE!1D9ew00C!8D#eC9eys0D9d6w0F!1G!1F*;C!BD!3C!xD*;9p!duk0C8!7C!eB!yC*2;!HH!0G!4H$bG!v!HH!0G!4H$bG!v!UH!0G!4H;!c!YMST!ECST!EMD#p!YMS;!6E!HF!0E!4F!LE!2F!6E!UF!0E!4F;!3E!BD!3E!xD;M3.5.0/1,M10.5.0;108!k3;a31g0;F!1E!1F;$0dbpg0B5rb$cbvus0B6h9$0cls40B64ak0Ccls40B6h9$0c8tg0B",
  "*16u7$cc8tg0B64a;!QG*1!FF!jG!8F!pG!SF!pG!FF!QG#FF8zzw0G!FF!pG!SF*2!pG!FF!QG!FF8n180G$oF!pG$oF!qG#FF!pG!FF;!pG!FF$r!QG*2!FF!pG!SF*1!pG!FF!QG!FF8n180G$oF!pG!SF8zzw0G#FF!bG5eis0Fcyl80G!xF!3G!B;ST,;!3D!xC*4!3D!BC!3D!xC*3!3D!BC!3D!xC;w0D!8C9gnw0D9b9g0C*29gnw0D!8C9gnw0;ssrB157b79Df4e0rB49hzb9Eaye0rC7ves0Eawik0C*27ves0Eayd$07ves0D534i;kjk40H25s00I1weyo0H5reo0Ibvs00F776k0Gdbpg0F5rbw0Gbbhg0F7rjw0G!SF!Q;!aB!1C!1B*4!1C!aB!1C!1B*4!aC!1B!1C*4!aB!1C!1B*4!1C!aB!1C!1B*1|AEST-10AEDT,M10.1.0;B#QC!aB8c000#6!2C51hc0Bmbmk0D51hc0B#fD#nB#fD#QBbvs00D!OBa4tc0D5clc0B4bms0;#FF6u7w0G2$xGc8tg0F6h980Gag040F!pG!SF8a2k0G*1ap9g0F80t80Gap9g0F7nuk0;s80I!jJ!8I*1#x#k!BI!3J!xI*3!3J!BI!3J!xI*4!3J;!bH!iG#4H!BG!3H!xG*1#8!BG!3H!xG*3!3H!BG!3H!xG*;vlcB69weoCci0xcB*269weoCcjvlcB69weoCci0xcB*269we;!4M!LL!2M!6L!HM!0L!4M$bL!2M!6L!HM!0L!4M!LL!2M!6L;!4J!LI!2J!6I!HJ!0I!4J$bI!2J!6I!HJ!0I!4J!LI!2J!6I;0 GMT;!bC!i;!u!UG!0F!4G*1!w0/;!c-216!5MD#p!YMST!EMWT*!EM;k0C;B49pc0Ccxfk00B4h400C!1B!1C;!4E!LD!2E!6D!HE!0D!4E$bD!2E!6D!HE!0D!4E!LD!2E!6D;!4L!LK!2L!6K!HL!0K!4L$bK!2L!6K!HL!0K!4L!LK!2L!6K;Ab9gdg0B!jA!8B*3!qA!8B!jA*#BB!3A!xB*4!3A|;9eys0;360!5;324!5;D!iE;-#G-02;afxc0;Eswz00C!6D!aC!1$18l9c0Cjl1hc0F!1G!1F$I3;-#3-01;,!P-04;0E3yik0Ffkr4rjF$6;$Kc8tg0B6h9$q$Kcls40B*16h9$0c8tg0B*26h9$0dbpg0B5ed$09v;!W*,#d;!2N!6O!HN!0O!4N;!pC!FB!Q;bitc0;#GEET,!zMSK$d,!T,!T,#ZD*,!M;#m!m3!3!m4!3G|EST5ED!o;!DCWT*!DCPT*;D!BE!3D!xE*;!0B!4A!LB!2A!6B!HA!0B!4A$bB!2A!6B!HA;779c0;40B;!1D!1;*4!1;!c-;w0D;ST#L;y800Ca4tc0D7vc00Cauqo0D7idc0Cb7pc0D6sg00Ccyo00D7;!4E!LF!2E!6F!HE!0F!4E$bF!2E!6F!HE!0F!4E!LF!2E!6F;ves0Cayd80B7ves0Cawik0B*27ves0Cayd80B7ves0Cawik0;396#21;!eF$HF#4C!eF!yC;!eD$HD#4C!eD!yC;F!0G!4F!LG!2F!6;!aM!1L!1M*4!aL!4M!0L!UM!6L!HM!0L!4M!LL!2M!6L!UM;64dc0;$9AKD#p-$RAK%fhc7qjzBh4y;!HL!0K!4L!LK!2L!6K!UL!0K;s0B;#oF!iG!bF*3!iG#oF#NG#oF!iG!bF;!qE!8D!jE*3!8D!qE#7D!qE!8D!jE;I!BH!3I!xH*;C!BE!3C!xE*;#Keys0Cxes2s0F!yC!eF!yC8aa%e!yE!eD!bE#i!yE;!LE!2D!6E!UD!0E!4D;!c396!5AED#p$QAE$t$QAE;H!1G!1H;432#22;%r8n1$0$oB8ov$ca16%r8qq$K9zc%a8sl$09xhg0B8wa$K9ts%a8y5$0a4w%a8n1$0$oB",
  "8ov$ca16%r8;$9P$t!YPW#p!YPP;!MT,#GEET,!zEES;3400F!QGc8tg0F6h980G$oF!pG!SF!pG!FF!QGag040F8a2k0G!FF!QG!FF!pG!SF*1!pG!FF!QG*1!F;!qC#7E!qC!8E!jC*3!8E!qC#7E!qC!8E!jC*2!eE!yC!eE$HE#4C!eE!yC*1!eE$HE#4C!eE!yC*2!eE$HE#4C!eE!yC;!jCb42%r7nu$K8ya%r8zz$c#FB#eC9b9g0B!jC#FB8zz$c!8B!jC*2!8B!qC!8B!jC*4!8B!qC!8B!jC*4#F$2;$K#eD$PC!jD!8C*5!qD!8C!jD*4#FC!jD!8C*1!jD1ckdo0C!pD!8C!jD*3!8C!qD4fio40C9ct00D9d9;%d180!5#J;s0C;$Ka4w%a8n1$0a6q%Bsl$09xhg0B8uf$c9vm%r8wa$K9ts%a8y5$0a4w%a8ov$ca16%r8qq$K7frw40;F!aE!1;%9B%3C*3!6B!2C*1!6B%3C%9B*1;#oC#NB*1#oC!iB!bC;*1!w0/3;$JP#p!YMST!D#J#L8y0j80$75k0E2dvo0Cb9gdg;|<+1;clpc0;CST6CD!o;40C;0D1tz8c0E2ds;*1#q5.0/4;9ew00;$p%cE!a$p*4!aE!4F!0E!UF$k#v!HF!0E!4F$b;$1%cC!a$1*4!aC!4D!0C!UD#Y#s!HD!0C!4D$b;!c#3CET$d,!T,!T!n#L;!PAST|-u;!c$T*,#P|-t85;|<-0;tk40Db07w0E7tk40Dayd80E*;*2!1;!HE!0D!4E!LD!2E!6D!UE!0D;!HJ!0I!4J!LI!2J!6I!UJ!0I;g0B;c0C;!yC!eF*2$HF!bC#FF!QC#FF!yC!eF#4C!iF*2!bC!eF!yC*1%k*2%k*1!eF$HF!bC|C;!pC!SB*;!0M!4N!LM!2N!6M;F!1G!1F;#S5>-5;!eH!bI!iH#4I!eH!yI;!c180!k5#9*#0#0#9*;thc0Bb0ao0C8jeo0Ba8io0C*15hoig0E7el80Dawo40E7v980Dawqw0E7&327&317v;k0E1sns0G3p6is0F51ek0G$AGb2840F80t80G66as0D4vxc0E!OJ!RE*1!OJ!4E!jD#FE!jD;!CD!aE!jD!8E!bD7z440Ear1c0D7z440E#oD#NE*1#oD7vc00Eaunw0$S!4D!0Eb4000D7nxc0E;#7E!qD8n6s0Ea2vw0$S!b$S#oD#NE*1#o$S!bD*1!iE#oD#NE*2#o$S!yD!eEa2v%e8n6s0E!jD!8E8zz%e#FE;&ib42s0D!8E!jD&j8a2k$acvw0$S!QD25us0E12t80$S776k#T1frw0$S6h98$a1sqk0$S64ak#T2;&kvmk0D#NE5rbw#T38l80D#NE51ek$a3ljw0$S4bh8#T4bh80$S3ljw$a4ofw0$S38l8#T5rb%e#N;#NE25p8$a6h980$S1frw#T776k0$Spuk$a!Q$Scvw$a!pD$oE8zz%e!8E!jD8n6s0Ea2v%e!eE!y$S!b$S#oD;&m#NE*2#o$S!bD*1!iE#oD#NE#4D!eEa2v%e8n6s0E!qD#7E8zz%e#FE8n18#Tcv%e#NE8a2k#Tpuk0D#NE!Q;&nD2itg0E12t80$S6u7w#T1sqk0$S64ak$a25p80$S5rbw$a2vmk0D#NE5ed8#T3lj%e#NE4ofw;&o$a3yik0$S3yik#T4ofw0$S3ljw#T51ek0$S2vmk$a5ed80$S2inw#T6h980D#NE1sqk$a6u7%e#N;bq580D71s%T*1bq580D73m%Jbq580D71s%Tbq580D1b2g00E8so00Fst1c0E!OF!aE!CF!R;&qE*1!OFst1c0E!O$psg2o0E!1F!CE!aF!RE!O$p!CE!aF!RE!2F51hc0Ebmio0F99c00E%WF88ao0E;&r25p80H5reo0E3lpg0F%9E1sqk0H#QE38qs0F#QE25p80H#nE38qs0F#QE25p80H#nE3",
  "8q;%r!CA!aB!1A!1B!1A!aB!CA!1B!1A&4B!aA!1B!1A%cB!aA!1B!1A*4!aB!4A!0B!UA!6B!HA!0B!4A!LB!2A!6B!UA%8%8!0;L!CM!aL!1M!1L!1M!aL!CM!1L!1M&4L!aM!1L!1M%cL%n!0L$E!HM!0L!4M$bL!2M!6L!HM!0L!4M!LL!2M!6L!UM!0L!4M%O;B7ves0Aa4y$c!0D!4C!0Db8qd&81cm000D!6C!a$1!1C8l9c0Dggp1&8!CD!aC!1$1!aC!C$1&4C!a%YC!2D#Y;%gayo0Cbko00D7rmo0C!RDbvs00C#QD!CC!a$1!RC!OD!aC!CD!RC*1!OD!aC!CD!RC!O$1!CC!R$1!CC!aD!RC;#QC!aB8c000#6!2C51hc0B6kt00G17vs80E!6%L$p1ufo0I3i5o0B4bm%J!aB!CC#MB1frw0H#CJ;&82f1c0B10q800C7rmo0Bb0ao0C7&ges0Dawi&h!8E*3!OD!RE8ulg0D97ek0E8y580D9t;C!2B!0C!4B;#QC#fB#nC;!zAD#p!PA$t-!zAW#p-!zAP;|GMT0;|AST4;MT,;C!BF!3C!xF*;7v9$0;#Layy;b9h80G7glg0F*1b9h80G7tk40Fawik0G;I!1H!1I;G!bH!iG#4H!eG!yH*;E!0F!4E;!DE$t!PE;D!1E!1D;2v$cc5jxg0D1tz2s0E2dyg0Ctj1&7&a1%2#h*3!p#h*3%2C!F$2*2!qC#7B#u;$RAC$t378!5ACD#p342!5AC$t342!5A;!qC!8B!jC*13lp&7f4d$064g%aclm$K;H!4I!0H!UI#X#t!HI!0H!4I$bH!2I#X;!1G!aH!1Eipzw0G!8%z*2;9d6w0;0 -00;!eE!b$S#4D!eE!yD;Dqi27$c9!V;$n%0,#d%0*,$n;&lE2vmk#T64ak0D&pE1frw$a776k0$Spuk#T!pD|EET-2EE$tM3.4.4/;uf$c6zxg0D66800C&ss0F#ME!1F9d9o0E!1F!1E*3!a$p*3!1E!a$p%cE!a$p&4;$w$K351g0D24lbw0Eb25&82mg00Db7%EF!pG!SF*2$sFbvp80G!BFvon;M4.1.0/3;EST5ED!o;40E;*4!a;!SB!pC*3!FB!Q#h;!2C!6B!HC!0B!4C;o0C;c8s20;00C;%Q2>-12;%Q1>-11;!jC*3!8;#S7>-7;#S4>-4;#cu7$cbvxk0E6u540F;!YPD#p;!zEAT;#3BS#p$G;G!8H;|-u9r;|-nu1;!1J!1K;B#nC#fB*;1vbzw0;!eE!b$S#4%71!3%74!3%73!3%74!3%73!3%74!3D|MST7MD!o;k0D;eb94dD1kbr2oE2yhc00F8n3jcG1v2p60Fiy3ms0Ht93z7jH#S;c0D;%d$9YD#p-$RY$t-$9YW#p-$9YP#p!YYDD#p-$9P$t(g!YM%f;%d16965 SMT!D-05$X$X*,#P*;#Key%J591h80Es5qo(s!yE!eD;!c25590 PLMT#9#U#E#9|-x56;80D;!qC#7;!ECST;!zID#p#GI$t;|AKST9AKD!o;G!1F!1G;8zz$c;64a$K;396!5;00D;,468#23;#U*#9#9#U*#9*;#S3>-3;!aF!CE;o0D;D!hF&4E!aF!4E!0F!UE!6F!H;Ba2v$c;!3$g4!3$g3!3$g4!3;,0 +00;%WF%WE!1F*2%WE%WF%WE!1F*2%WE;#QF#fE#nF;#L5r0;#eD!8H*1#eD$PH&TI!1J!1I;!pH!FG!QH;!jE%WC!8E#eC$PE&T&c%cG!aF!1H!8I5reo0F3ljw0(C;!bA!iB!bAbmtu%J1;xltk0B$HB;q1e0E9czy0D9d2q0;g0C;B9a9!Kd$0;B7ve%Ja4y%e!0E!4;5Eqi27%e#eE!8D*1#eE$PD&T&c*!ZF!6G!U%mJ(oFc4j;234!k630;0E3yik0F!FE!QFf2123jF$6;,M10.;,144!5MS;!W#0*#0!W#0",
  "*;!6M!HL!0M!4L;!6K!HD!0K!4D;!6I!HG!0I!4G;!6H!HG!0H!4G;|WAT-1;|CAT-2;D1tz2s0E2dy(Zcawis0F#W;77c%Tb;1|WET0WE$t$m;$L!aB!CCeeio00B;#GCAT;#3WAT;!UH!0G!4H!LG!2H;!2Q!6R!HQ!0R!4Q;!2O!6N!HO!0N!4O;!0D!4C!LD!2C!6D;0 WET;#9,264!k720*,264!k720,270!k730#E#U#L00e;!6O!UN!0O!4N!LO%1$bO%1!LO%1$bO%1!LO!2N!6O!UN!0O!4N;(N!SB882&8bmiw(s1tz000E2e1$0a7n3w0F!aC;&Gayi%r&Gawo%a;!DEST;!c#P*$X|-t8;!aE%bE;|EAT-3;c0B;#nC4ir9)x#nC40r400B5eg(97p9h)x5reo0&z!0;bvs00;C*1;a0Cbvte0B*26u9a0C(8B6ham0)A(8$8C*2(8$8;0Db5w20E;,!zMSK;G!1H!1G;0$2*3$h!eB$HB!bD!iB!bC!eB!y)A!eB$HB#4;DT*;C5iv8(q67!t0Fbiw(37;%d(FN$t-$QNW#p-$QNP#p-(FB$t-$QBD#p-;!c288!k8$e*#E#E$e*#E*#U$e$e*#E|-q4c;w0F;s0D;k0B;c0E;D*1;40F;!5-0;$u*4!3D!BC!3D!xC*3!3D!BC!3D!xC*4!3;#D27s8(9z9g0F1u93w;!LE#V$bE#V;!aH!4I!0H!UI!6H!HI!0H!4I!LH!2Fhc4x;$bC!2B!6C!0B!4&z!LC!2B!6&z!6C!2B#MC!1B;!4E!0D!UE!6D&5$M!HE!0D!4E$bD!2E!6D&5!4;!4L!0K!UL!6K%q$N!HL!0K!4L$bK!2L!6K%q!4;!c(i,$G$d,!T,!T,#GBDS#p#GBDS#p#3B$t(i;$PI&TJ!1K!1J*3!1L!8M!1L!aM!1L!1M(4L;&4E!I!4E!LG!FH!6Ed;!8E!qD#7E!qD!8E!jD*2!eE!yD&V*1&V*2;0H!j(j;g0D;#MF!4G!0F*1!4G#MF;#GEET;!YMST!EM;!qD!8C!jD*3!8C!qD;$zC!aB!CC#MB1fr%e;|MST7;|CST6;|-qcx400B5q5zo0&W;nlC5lu(L8&w!O$1!CC!aD!RC!2D51po0;G!pH!SG;F!OE(K!RF!OE;E!1F!1E;C%bC%cD!aC%b;B$HB#4C!eB!y;7x5a0Dasxe0E;6h9$0;25iuD15ct80E8so(9;1st)xgkao0!G;!qC!8;#QD#fC#nD*4#fC#QD#fC#nD;0!c;1st&8gkao0!A;198!k530;#rC514g%a!QCbiw%acv$ciq5&7=jiqw;#eC$PB#eC;!pF!FG!QF;k0F;C99k;,#3WES;&24>4;zyu0C49p(scxfk(94h400$1!aC!CD;yq%r(Ecl#HC;mk0(j!qG#7H!q(j!jG*3!8H!qG#z1;H!qI!8H!jI*;8n1$0;=2*1!qG#z1!3!m4!3!m3c8ic0I=9;%oC%R(n2&A*4#fB;8!c;y0m00$78)N2ds$c;k0E;C!bD!iC#4D!eC!y;40D;!jC!8;1cm000E!6D)v!1D;%Q0>-10;%A#L00f;aD1tyug0E2e6%Jb7yi=u12$3H1l;L!1K!1L;G!4H!0G;G!0F!4G;F!0G!4F;E!aD!CE;Bt83x&8;(Nc5jx=31t;(oHqnc(3bd;&22>2<-01>,M3.5.0/-1)55.0/;2!c360#20,#O,%j,#O*$e,%A,#O(l;!pC;|3s9m&tB!4A!LB!2A!6B!UA!0B!4;!6I&6$F!HJ!0I!4J$bI!2J!6I&6!4J%V;%w*177c=J!3E!xD*4$l*3$lbvp;$W,$G(ke;#S6>-6;!D-05;(m!aJ!CK(m&4J!aK(m%cJ!aK(m*4#I!w;!yE*1#R!iD;#1us%U$c;w0B;o0B;*3!a;g0F;%v3!3%v4!3;awo%a;D$50Ec4j;7ve%J;-90!5N;!QCbiw%apu$Kid6",
  "%r=jiqwe3j;!q(j!jG*13lp&7f4g00G%oHcl;w0E;tmk0G8wg)P9gnw0G99es0F8qq;,!MT;s0E;o0E;68!5NZD#p432!5NZ$t432!5NZ;4qa(qe1m%J7pp(xcnm%J3af%e;&e*2&e*1!eH!bI!iH#4%u1!3;u9a0D(8E6ham0;ST-;*,$T;(yB#u#u$h8!7!N;C!0D!4C$bD!2C!6D!HC)n!2C;4ohqoDe5a9cC4ohqoDe3flcC;29hh$K9cmd(327sa)L29fk%T;(yD=mD!jC*2!eD!yC%l*1%l;%f5r0;$t(g!YPW#p!YPP#p-$9PST|;!X*28!7!N;!zAD#p!PA;|-q3g;c(925s00B;%u4!3%u3!3%u4;F!6G!H%mG;Cqi27w0$f;8n180;7lz$c;7c(G25s(9;N!6M!HN&b;6u7$c;00E;=F!zCAS#p)i,(h,)i|-kcr;%N*1!iB#oC#NB*2#oC!iB!b;(I#0#9*#9|-q;%Q3>-13;64!c;%d216!5;$PE#eC$PE!jC;#S9>-9;#S8>-8;#ME!4D#ME$UD;!c(i,#GBDS#p;N!1M!1N;N!0M!4N;J!1I!1J;F!2E!6F;D!0E!4D;Bdb2;99!k245,(h|-;504#24;324!k9;216!k6;1|NZ?t12NZDT,M9.5.0,(1;#S0>0<+01>,0/0,J365/2;oD7vcxcCawkeo)O7vcxcC;k0G;c=zcls%a(Edfe%r5nm$Zi;)51.0,(1;%z*4#aG$i%O;%d18430 KMT;$X,#P?u*,#P;$RY$t-%p;$l*3$l*4!3E;#L8vs;#L5r1;!P-04;!jGihsl&7!4;!c561 P&E$4;!eD$HD#4$g1;|EET-2EE$tM;|-p1u7)x;#h*3=Z!F$2*;y0m(Gh(X!bC;p80;b#D430lc;biw(3;PST8PD!o;!FC!pD!S;E(R*4#fE;!3&F3!3&F4!3;F!a(C*3!1F!a;776$K;4of%e;414#2130;270!k730;162)Q430;0$2*3;)L2t2t$0cmiwjjC&25>;%Tb07?97tk%Tayd80B*;$K3g880F8jb?k6u7)Kb;!1E%c%LF!1E*4!I%h!H;!eD?7#4E!BD!3E!x)O$l;!OC$UB#M)A$UB!OC!RB;g0E;00B;#0*!W;-15;-12;!EMWT*!EMP;!iG#oH#NG#oH!iG!bH;!iB%N*2!iB;!aC!CB(4C!1B!aC!CB;!8C!jD;gn$vD9b9(Z;g0H!b!m1%5;c8t;H!1I!1H!CI;E*1;!4F!0[3!4F#ME$UF*1;L)8!LM!2L!6M!UL!0M;C!BB!3G#nH!3G!xH%5;C8zz%e;*3!0;B37;(P*,$W;9czy0D;2!c;8a2;80E;1!eG$C4!3H;162!k430*,126!k330;-$Q-10;-14;,!zEES;#h*3;(F-11;*2!e;(h|-uj8;#GWEM#p;|EST5;s0F;*3!1;bu0%a;W#p!PEP;G!pF!SG;G!4F!0G;E8zr$K%bC&4D!a=gC;D#nE#fD*2#QE#fD#n;C!2B!6C;B%G*1at4(s!0E#V%x;H!C&J&4H!a&J%cH!a&J(4;D)9!LK!2D!6K!UD!0K;0)55.0/;@I&Q!8B9p!du$K!e;!c(g-%C#p!YM%f8v;|AC?t9:30;zd?k2dn&8;!bD!iC!bD;z5=H2dv(7;x&ys(38hm)La4q=H;)a!LI!2G!6I!UG!0I!4;!LN!2O!6N!UO!0N!4O;)b!LH!2G!6H!UG!0H!4;qi27%e#eC!8)O#eC$P;!OF$UE#MF*1$UE!OF;C!aD!CC(4D!1C!aD!C;?n#QD25@vF#nD38q;x5a)C7k6m;a4yw0&L!0;SA$t!zSAS;!jC#FB(D*;C*2;T*#L;00F;-16;s0G;qk2%H(79ct(Gb4l;gi?obbe(L7eo?Ob;9320 AD&E(h#Lg6;$PE&T&c*!ZF!6G!U;40G;84!c;30,;$RCD#p$9C;180;$d,!T;@n*?5$X?",
  "5|-t85;%D#p(A(A=5#L054x;)A(8B6u9;(31tz8c0F2ds$c;*1&CB$t$m;!a%XE!2F$k;#fF#nE%RF;!PE)G;&PC%f33j;%Z8vs;#cu7)K*1;#3CET,!T;!n#L00ed;!c24925 SMT)pw;|MSK-3;|<-10>10;w0G4ol?c;q(q#NC#oD*3#NC;f4d$064g;e1m%J;ckin$c9!V4!1%L;biw=J!QE;ayd80B?gawi)M*;MST7MD!o;H)fiqk0H;E69vy0Cc;!RH!OI!aH!CI!RH;!2Q!6R!UQ!0R!4Q;!OD$UC#M)O$UC!OD;K!0L!4K!LL!2K!6;)1D!0Eb8qd(s=L;E*2;Cln7;AST4AD!o;9gn%e;8n6%J;8l9c0;$jT!DC)G;7tk)P;7te$K;!bE!iD;7qd&82tx?c1sga;%I(z%6&M)G#L8@u;@q(O$g3!3$g4!3;5reo0;4olg0G;(cF(yF;4ml(x;3ljw0;%d%C#p(g-;36!k1;288!k8;2 NS#p1172 A&E;!FC!QD;1kjf00;0J7r$B(B;.1.6/2;-$9P$t;-432!5@T;-20;16!c;-13;24!c;)h%oC97zuo0(n;(5*3#u#u(yB#u;$9HKT,$RHKS#p;!FG1pb260F2dl;|-u;aun$c7ig%a#oC;ag0;a2v;D#p@T6!5N$t?h;D*2;#0*%0!W(l;?Kb42%r;(Z6h9(x;(x)fiq(q;&Y50)54.4/50;%d&BT*|-z94k;%bF%cD!aF%bF;$JPT*(z|-xkq;!0I!4J!LI!2J;|AE?t10;jD&25>5;h80;$QAE$t;g7c(G=p;!4D!0;g7c(9=l;clm$K!8;c65z)K|Ch?t1;bzk5oE69uicD;L!1M!1L;H!8C!jH; B&E;K!1L!1K;C!aB!CC;B!8G!jB;B77c]4biq)M*;!QC!F;76!c;90!k2]6;51e;&W4!1%L;30>-;!LM!2L)8$bM!2;)V!1C*3$y,(1;06!5K$t$RJ$t;-342!5H;-21;,%A(H*,#O,%A;,#d*,#d;*1g7c00;,%j*$e;%J!jD!8)A!qD;?UCST)t!D#J;=B3!8H!qI#7;&0j7w;$Lghey?a)yC;#rC2yl4%a(E;!qD!8E!jD*3;!5LMT;|-yvt;!2D!6;jC$6;MT!n;|-wvp;|-rvu;%M%3C!p;rjE(e;bq5$0;a4w%a;G*1;Bn4x6;B1ziz;9(YE*4[b9(Y;)6D*)D)D)6D*;!LK!2D)9$bK!2;!LI!2G)a$bI!2;!LH!2G)b$bH!2;(j!1G!aH!1I!8;9q5k0;9gn$c;9b6(L;8zz)K;8n6[Z;8n1(x;7x820;776;71m$K;6bp$0;64a(q;bv@v;5re(L;5312 PMMT$e;4ffjj;$G,)j(k;40 ;3lm(7;3jp(x;]8!5E$t;2dq%T;E(K(4F!1E(K*;[d=u!SH!pF*;&U!D#J)t(z|-;=hC!eB!yH#M;1st)x;1st&8;0D9d2q0E[b*;[q93@vG9md;[1g0H6;=Z!FG465h8;)02yy2%r=j;%k*1!eF$HF;%d@H,&07lc;$QCh%ft8j1;!5L&E;$G,18!k0]6;$jT!D#J;!bE#i!y[3!e;@T6)Q3;#P*$X,#P|-;!iFc8w[e!6;|SA?t2;|HST10;tw0%a&a2=Z;o0F;gj=ktmt(q4;f4(G7ay?ob;c0F"]

/-- The shared pieces written out, each by the pieces before it. -/
def pieces : Array String :=
  (Text.splitOn pieceText ";").foldl (fun done p => done.push (String.ofList (splice done p.toList))) #[]

def record (i : Nat) : String := String.ofList (splice pieces (records.getD i "").toList)

def readKinds (text : String) : List ZoneKind :=
  (Text.splitOn text ",").filterMap fun k =>
    match Text.splitOn k " " with
    | [off, abbr] =>
      let dst := abbr.endsWith "*"
      let abbr := if dst then String.ofList (abbr.toList.dropLast) else abbr
      off.toInt?.map fun o => ⟨abbr, o, dst⟩
    | _ => none

def digit36 (c : Char) : Nat := if c.isDigit then c.toNat - 48 else c.toNat - 87

/-- A count written in base 36, with `-` before it when negative. -/
def readBase36 : List Char → Int
  | '-' :: ds => -((ds.foldl (fun n c => n * 36 + digit36 c) 0 : Nat) : Int)
  | ds => ((ds.foldl (fun n c => n * 36 + digit36 c) 0 : Nat) : Int)

/-- The files of the database by path, with the record of each file that holds zone data,
read from `fileText`. -/
def files : List (String × Option Nat) :=
  let step (st : List Char × Nat × List (String × Option Nat)) (entry : String) :=
    let (prev, next, acc) := st
    let cs := entry.toList
    let tail := cs.drop 1
    let path := prev.take (digit36 (cs.headD '0')) ++ tail.takeWhile fun c => c != '*' && c != '>'
    match tail.dropWhile fun c => c != '*' && c != '>' with
    | '*' :: _ => (path, next, (String.ofList path, none) :: acc)
    | '>' :: ds => (path, next, (String.ofList path, some (readBase36 ds).toNat) :: acc)
    | _ => (path, next + 1, (String.ofList path, some next) :: acc)
  ((Text.splitOn fileText " ").foldl step ([], 0, [])).2.2.reverse

/-- The steps of a record's changes, each its count of seconds and the index of its kind, with
every repetition written out. -/
def readSteps (cs : List Char) : List (Int × Nat) :=
  let rec go (digits : List Char) (acc : List (Int × Nat)) : List Char → List (Int × Nat)
    | [] => acc.reverse
    | '*' :: k :: r =>
      match acc with
      | a :: b :: _ => go [] ((List.replicate (digit36 k) [a, b]).flatten ++ acc) r
      | _ => go [] acc r
    | c :: r =>
      if 'A' ≤ c && c ≤ 'Z' then go [] ((readBase36 digits.reverse, c.toNat - 65) :: acc) r
      else go (c :: digits) acc r
  go [] [] cs

/-- Reads the changes of a record: the first step counts from 1970-01-01 UTC, every other one
from the change before. -/
def readChanges (cs : List Char) : List ZoneChange :=
  let rec times (prev : Option Int) : List (Int × Nat) → List ZoneChange
    | [] => []
    | (n, kind) :: r =>
      let time := match prev with
        | some p => p + n
        | none => n
      ⟨time, kind⟩ :: times (some time) r
  times none (readSteps cs)

/-- The zone of a name from its record; a zone that never changed gets one change at the
earliest second. -/
def decode (name record : String) : Zone :=
  match Text.splitOn record "|" with
  | [kinds, changes, rule] =>
    let cs := readChanges changes.toList
    let cs := if cs.isEmpty then [⟨Zone.alpha, 0⟩] else cs
    { name := name, kinds := (readKinds kinds).toArray, changes := cs.toArray, rule := rule }
  | _ => { name := name }

inductive OpenFailure where
  | missing
  | notDirectory
  | isDirectory
  | tooLong
  | invalid
  deriving DecidableEq

def OpenFailure.message : OpenFailure → String
  | .missing => "no such file or directory"
  | .notDirectory => "not a directory"
  | .isDirectory => "is a directory"
  | .tooLong => "file name too long"
  | .invalid => "invalid argument"

/-- The instants, in seconds from 1970-01-01 UTC, at which a leap second has been added:
each the first second of the day after the leap. -/
def leapSeconds : List Int :=
  [78796800, 94694400, 126230400, 157766400, 189302400, 220924800, 252460800, 283996800,
   315532800, 362793600, 394329600, 425865600, 489024000, 567993600, 631152000, 662688000,
   709948800, 741484800, 773020800, 820454400, 867715200, 915148800, 1136073600, 1230768000,
   1341100800, 1435708800, 1483228800]

def leapsBefore (sec : Int) : Nat := (leapSeconds.filter (· ≤ sec)).length

/-- A zone whose changes are counted in seconds that include the leap seconds: each change
falls that many seconds later. -/
def countLeaps (z : Zone) : Zone :=
  { z with changes := z.changes.map fun c => { c with time := c.time + leapsBefore c.time } }

/-- A file of the database that holds zone data: its record, and whether the file counts
its changes in seconds that include the leap seconds. -/
structure ZoneFile where
  record : Nat
  leaps : Bool := false
  deriving DecidableEq

/-- The names of the zones themselves: the files of the main tree that hold zone data, but
for `localtime` and `posixrules`, which stand for another zone. -/
def zoneNames : List (String × Nat) :=
  files.filterMap fun (n, r) =>
    if n == "localtime" || n == "posixrules" then none else r.map (n, ·)

/-- The zones again under `posix/`, and under `right/` counting leap seconds: a path below
one of them and what it names. -/
def subtree (path : String) : Option (String × Bool) :=
  if path.startsWith "posix/" then some ((path.drop 6).toString, false)
  else if path.startsWith "right/" then some ((path.drop 6).toString, true)
  else none

/-- What a path of the database holds when it is a file: its zone data, if any. -/
def file? (path : String) : Option (Option ZoneFile) :=
  match subtree path with
  | some (rest, leaps) => (zoneNames.lookup rest).map fun r => some { record := r, leaps := leaps }
  | none => (files.lookup path).map (·.map ({ record := · }))

/-- Whether a path (components joined by slashes) is a directory of the database. -/
def isDirectory (path : String) : Bool :=
  path == "" || path == "posix" || path == "right" ||
    match subtree path with
    | some (rest, _) => zoneNames.any fun (p, _) => p.startsWith (rest ++ "/")
    | none => files.any fun (p, _) => p.startsWith (path ++ "/")

/-- What a path of the database holds: a file, with its zone data if it has any, or the
failure of opening and reading it. -/
def openPath (name : String) : Except OpenFailure (Option ZoneFile) :=
  if name.toList.contains (Char.ofNat 0) then .error .invalid
  else if "/usr/share/zoneinfo//".utf8ByteSize + name.utf8ByteSize ≥ 4096 then .error .tooLong
  else
    let step (cur : Except OpenFailure (String ⊕ Option ZoneFile)) (part : String) :
        Except OpenFailure (String ⊕ Option ZoneFile) :=
      match cur with
      | .error e => .error e
      | .ok (.inr _) => .error .notDirectory
      | .ok (.inl dir) =>
        if part == "" || part == "." then .ok (.inl dir)
        else if part.utf8ByteSize > 255 then .error .tooLong
        else
          let path := if dir == "" then part else dir ++ "/" ++ part
          match file? path with
          | some r => .ok (.inr r)
          | none => if isDirectory path then .ok (.inl path) else .error .missing
    match (Text.splitOn name "/").foldl step (.ok (.inl "")) with
    | .error e => .error e
    | .ok (.inl _) => .error .isDirectory
    | .ok (.inr r) => .ok r

def hasDotDot (name : String) : Bool :=
  let cs := name.toList
  (cs.zip cs.tail).any fun (a, b) => a == '.' && b == '.'

/-- The zone of a name, or why it cannot be read. -/
def load (name : String) : Except String Zone :=
  if name == "" || name == "UTC" then .ok Zone.utc
  else if name == "Local" then .ok { Zone.utc with name := "Local" }
  else if hasDotDot name || name.startsWith "/" || name.startsWith "\\" then
    .error "time: invalid location name"
  else match openPath name with
    | .ok (some f) =>
      let z := decode name (record f.record)
      .ok (if f.leaps then countLeaps z else z)
    | .ok none => .error "malformed time zone information"
    | .error .missing => .error ("unknown time zone " ++ name)
    | .error e => .error e.message

end Foreman.ZoneDatabase
